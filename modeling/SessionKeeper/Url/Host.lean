import SessionKeeper.Text.Casing
import SessionKeeper.Text.Pieces
import SessionKeeper.Url.Escape
import SessionKeeper.Url.Label

/-!
# Hosts

* `isAddress4`, `isAddress6` : numeric addresses of four octets, and of eight groups.
* `normalHost?` : the written form of a host.
-/

namespace SessionKeeper.Url

open Text Decimal

/-! ## Numeric addresses -/

/-- One of the four numbers: up to three digits, no zero in front, at most 255. -/
def isOctet (cs : List Char) : Bool :=
  !cs.isEmpty && cs.all isDigit && cs.length ≤ 3 && (cs.length = 1 || cs.head? ≠ some '0') &&
    ofDigits cs ≤ 255

/-- Four numbers with points between them. -/
def isAddress4 (cs : List Char) : Bool :=
  let parts := splitBy (· = '.') cs
  parts.length = 4 && parts.all isOctet

/-- A group of one to four hexadecimal digits. -/
def isGroup (cs : List Char) : Bool := !cs.isEmpty && cs.length ≤ 4 && cs.all isHex

/-- The groups of an address of eight groups; the last two may be written as four numbers. -/
def groupsOf (cs : List Char) : Option (List (List Char)) :=
  let parts := splitBy (· = ':') cs
  if parts.length < 3 then none
  else match parts.getLast? with
    | some last =>
      if last.contains '.' then
        if isAddress4 last then some (parts.dropLast ++ [['0'], ['0']]) else none
      else some parts
    | none => none

/-- Groups at one end of the left-out run; an empty outermost group means that the run reaches that
end, and then there is no other group. -/
def isEdge (outermost : Option (List Char)) (groups others : List (List Char)) : Bool :=
  if outermost = some [] then others.isEmpty else groups.all isGroup

/-- Eight groups with colons between them; one run of zero groups may be left out. -/
def isPlainAddress6 (cs : List Char) : Bool :=
  match groupsOf cs with
  | none => false
  | some parts =>
    let inside := (parts.drop 1).dropLast
    match (inside.filter (·.isEmpty)).length with
    | 0 => parts.length = 8 && parts.all isGroup
    | 1 =>
      let skip := (inside.takeWhile (fun p => !p.isEmpty)).length + 1
      let front := parts.take skip
      let back := parts.drop (skip + 1)
      let written := ((front ++ back).filter (fun p => !p.isEmpty)).length
      parts.length ≤ 9 && isEdge front.head? front (front.drop 1) &&
        isEdge back.getLast? back back.dropLast && written < 8
    | _ => false

/-- An address of eight groups, with the name of a zone after a percent sign allowed. -/
def isAddress6 (cs : List Char) : Bool :=
  match breakAt (· = '%') cs with
  | (address, none) => isPlainAddress6 address
  | (address, some zone) => isPlainAddress6 address && !zone.isEmpty && !zone.contains '%'

def looksNumeric (cs : List Char) : Bool :=
  let parts := splitBy (· = '.') cs
  parts.length = 4 && parts.all fun p => !p.isEmpty && p.all isDigit

/-- The written form of a host, or none if it is no host. -/
def normalHost? (cs : List Char) : Option (List Char) :=
  if cs.isEmpty then some []
  else if looksNumeric cs then (if isAddress4 cs then some cs else none)
  else if cs.head? = some '[' && cs.getLast? = some ']' then
    let inside := (cs.drop 1).dropLast
    if isAddress6 inside then some inside else none
  else if cs.all (·.toNat < 128) then some (escape inHost (cs.map Char.toLower))
  else Label.host? (lowerChars cs)

end SessionKeeper.Url

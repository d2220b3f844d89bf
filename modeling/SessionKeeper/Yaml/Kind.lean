import SessionKeeper.Decimal.Read
import SessionKeeper.Yaml.Stamp

/-!
# Kinds of nodes

* `Kind` : what a tag says about a node.
* `Kind.ofTag` : the kind of a tag that is written out.
* `Kind.ofPlain` : the kind that the form of a plain scalar shows.
-/

namespace SessionKeeper.Yaml

/-- What a tag says about a node. -/
inductive Kind where
  | null
  | flag
  | integer
  | real
  | octets
  | stamp
  | text
  | sequence
  | pairs
  | orderedMapping
  | mapping
  | set
  | merge
  | default
  | unknown
deriving DecidableEq, Inhabited

namespace Kind

def standard : String := "tag:yaml.org,2002:"

/-- The standard tags, without their beginning. -/
def names : List (String × Kind) := [
  ("null", null), ("bool", flag), ("int", integer), ("float", real), ("binary", octets),
  ("timestamp", stamp), ("str", text), ("seq", sequence), ("pairs", pairs), ("omap", orderedMapping),
  ("map", mapping), ("set", set), ("merge", merge), ("value", default)]

def ofTag (tag : String) : Kind :=
  match names.find? fun e => standard ++ e.1 == tag with
  | some (_, k) => k
  | none => unknown

/-! ## The forms of plain scalars -/

/-- Whether a class of digits, or underscores, makes up the text, which is not empty. -/
def isRun (p : Char → Bool) (cs : List Char) : Bool := !cs.isEmpty && cs.all fun c => p c || c = '_'

/-- Digits and underscores that begin with a digit of a class. -/
def isNumeral (first : Char → Bool) (cs : List Char) : Bool :=
  cs.head?.elim false first && cs.all fun c => c.isDigit || c = '_'

/-- Whether a part is one digit, or two that are less than sixty. -/
def isSixtieth : List Char → Bool
  | [a] => a.isDigit
  | [a, b] => '0' ≤ a && a ≤ '5' && b.isDigit
  | _ => false

/-- The parts of a text between the marks of a class. -/
def parts (mark : Char) : List Char → List (List Char)
  | [] => [[]]
  | c :: rest =>
    match parts mark rest with
    | [] => [[c]]
    | front :: others => if c = mark then [] :: front :: others else (c :: front) :: others

/-- Numbers to the base sixty: a numeral, and parts after colons. -/
def isSexagesimal (first : Char → Bool) (cs : List Char) : Bool :=
  match parts ':' cs with
  | lead :: (more :: others) => isNumeral first lead && (more :: others).all isSixtieth
  | _ => false

def isPositiveDigit (c : Char) : Bool := c.isDigit && c ≠ '0'

/-- An integer: decimal, or to the base two, eight, sixteen or sixty. -/
def isInteger (cs : List Char) : Bool :=
  let (_, body) := Decimal.takeSign cs
  match body with
  | '0' :: 'b' :: ds => isRun (fun c => c = '0' || c = '1') ds
  | '0' :: 'x' :: ds => isRun isHexDigit ds
  | ['0'] => true
  | '0' :: ds => isRun (fun c => '0' ≤ c && c ≤ '7') ds
  | ds => isNumeral isPositiveDigit ds || isSexagesimal isPositiveDigit ds

/-- The exponent of a number: a letter, a sign and digits, or nothing. -/
def isExponent : List Char → Bool
  | [] => true
  | e :: s :: ds => (e = 'e' || e = 'E') && (s = '+' || s = '-') && !ds.isEmpty && ds.all Char.isDigit
  | _ => false

/-- Digits and underscores, and an exponent. -/
def isFraction (cs : List Char) : Bool :=
  isExponent (cs.dropWhile fun c => c.isDigit || c = '_')

def infinityWords : List String := [".inf", ".Inf", ".INF"]

def nanWords : List String := [".nan", ".NaN", ".NAN"]

/-- A floating-point number: with a point, or to the base sixty with a point, or a word. -/
def isReal (cs : List Char) : Bool :=
  let (_, body) := Decimal.takeSign cs
  let signed := cs.length ≠ body.length
  infinityWords.contains (String.ofList body) ||
    (!signed && nanWords.contains (String.ofList body)) ||
    match Decimal.breakAt (· = '.') body with
    | ([], some rest) => !signed && rest.head?.elim false Char.isDigit && isFraction rest
    | (lead, some rest) =>
      (isNumeral Char.isDigit lead && isFraction rest) ||
        (isSexagesimal Char.isDigit lead && rest.all fun c => c.isDigit || c = '_')
    | (_, none) => false

def flagWords : List String := [
  "yes", "Yes", "YES", "no", "No", "NO", "true", "True", "TRUE", "false", "False", "FALSE",
  "on", "On", "ON", "off", "Off", "OFF"]

def nullWords : List String := ["~", "null", "Null", "NULL"]

/-- The text without one break of a line at its end. -/
def trimmed (cs : List Char) : List Char :=
  if cs.getLast? = some '\n' then cs.dropLast else cs

/-- The kind that the form of a plain scalar shows. -/
def ofPlain (s : String) : Kind :=
  let cs := trimmed s.toList
  let word := String.ofList cs
  if s.isEmpty then null
  else if flagWords.contains word then flag
  else if isReal cs then real
  else if isInteger cs then integer
  else if word = "<<" then merge
  else if nullWords.contains word then null
  else if (Stamp.read? cs).any Stamp.isPlain then stamp
  else if word = "=" then default
  else if word = "!" || word = "&" || word = "*" then unknown
  else text

end Kind

end SessionKeeper.Yaml

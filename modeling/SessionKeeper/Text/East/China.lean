import SessionKeeper.Text.East.Big5
import SessionKeeper.Text.East.Big5Extended
import SessionKeeper.Text.East.Chart
import SessionKeeper.Text.East.Gb2312
import SessionKeeper.Text.East.Gbk

/-!
# Chinese sets

* `chinese` : the chart of the mainland.
* `gbkChar?`, `gb18030Front`, `hzFront` : the sets built on it.
* `big5Char?`, `windows950Char?`, `hongKongChar?` : the sets of Taiwan and Hong Kong.
-/

namespace SessionKeeper.Text.East

/-! ## The mainland -/

def chinese : Chart := .ofRows gb2312Rows

/-- A character of the chart in a pair of octets from 0xA1 on. -/
def gb2312Char? (a b : Nat) : Option (List Char) := chinese (a - 0xA0) (b - 0xA0)

/-- The characters that Chinese shares with its neighbours and the chart does not hold, in their order. -/
def unlisted : Array Char :=
  let listed := gb2312Rows.flatMap String.toList
  let held := listed.foldl (fun (a : Array Bool) c =>
    if 0x4E00 ≤ c.toNat then a.setIfInBounds (c.toNat - 0x4E00) true else a) (Array.replicate 20902 false)
  ((List.range 20902).filter fun i => !held.getD i true).map (fun i => Char.ofNat (0x4E00 + i)) |>.toArray

/-- The number of a second octet from 0x40 on, which is never 0x7F. -/
def secondIndex (b : Nat) : Nat := if b < 0x7F then b - 0x40 else b - 0x41

/-- The number of an unlisted character by its two octets: the rows in front of the chart, then the left
part of the rows from 0xAA on. -/
def unlistedIndex? (a b : Nat) : Option Nat :=
  if b < 0x40 || b = 0x7F || 0xFE < b then none
  else if 0x81 ≤ a && a ≤ 0xA0 then some ((a - 0x81) * 190 + secondIndex b)
  else if 0xAA ≤ a && a ≤ 0xFE && b ≤ 0xA0 then some (6080 + (a - 0xAA) * 96 + secondIndex b)
  else none

/-- A character of the extended set in a pair of octets. -/
def gbkChar? (a b : Nat) : Option (List Char) :=
  match runChar? gbkRuns (a * 256 + b) with
  | some c => some [c]
  | none =>
    match if 0xA1 ≤ a && 0xA1 ≤ b then gb2312Char? a b else none with
    | some cs => some cs
    | none => ((unlistedIndex? a b).bind fun i => unlisted[i]?).map fun c => [c]

/-- The private character of a place that the full set leaves to its user. -/
def userChar? (a b : Nat) : Option Char :=
  if 0xAA ≤ a && a ≤ 0xAF && 0xA1 ≤ b && b ≤ 0xFE then
    some (Char.ofNat (0xE000 + (a - 0xAA) * 94 + (b - 0xA1)))
  else if 0xF8 ≤ a && a ≤ 0xFE && 0xA1 ≤ b && b ≤ 0xFE then
    some (Char.ofNat (0xE234 + (a - 0xF8) * 94 + (b - 0xA1)))
  else if 0xA1 ≤ a && a ≤ 0xA7 && 0x40 ≤ b && b ≤ 0xA0 && b ≠ 0x7F then
    some (Char.ofNat (0xE4C6 + (a - 0xA1) * 96 + secondIndex b))
  else none

/-- A character of the full set in a pair of octets. -/
def gb18030Char? (a b : Nat) : Option (List Char) :=
  match (runChar? gb18030Runs (a * 256 + b)).or (userChar? a b) with
  | some c => some [c]
  | none => gbkChar? a b

/-- The number of characters in four octets of the basic plane. -/
def basicCount : Nat := 39420

/-- The character of a number in four octets. -/
def stepChar (n : Nat) : Char :=
  match gb18030Steps.reverse.find? (·.1 ≤ n) with
  | some (base, first) => Char.ofNat (first + (n - base))
  | none => replacement

/-- A character of the full set in four octets. -/
def fourChar? (a b c d : Nat) : Option (List Char) :=
  if a < 0x81 || 0xFE < a || c < 0x81 || 0xFE < c || d < 0x30 || 0x39 < d then none
  else
    let rest := (b - 0x30) * 1260 + (c - 0x81) * 10 + (d - 0x30)
    let n := (a - 0x81) * 12600 + rest
    if a < 0x85 && n < basicCount then some [stepChar n]
    else if 0x90 ≤ a then
      let code := 0x10000 + (a - 0x90) * 12600 + rest
      if code ≤ 0x10FFFF then some [Char.ofNat code] else none
    else none

/-- Whether a second octet is a digit, which means four octets. -/
def isDigitOctet (b : UInt8) : Bool := 0x30 ≤ b && b ≤ 0x39

/-- What stands in front of octets of the full set. -/
def gb18030Front : List UInt8 → Front
  | [] => .short
  | a :: rest =>
    if isPlain a then plainFront a
    else match rest with
      | [] => .short
      | b :: more =>
        if isDigitOctet b then
          match more with
          | c :: d :: _ => .ofChar? 4 (fourChar? a.toNat b.toNat c.toNat d.toNat)
          | _ => .short
        else .ofChar? 2 (gb18030Char? a.toNat b.toNat)

/-- What stands in front of octets of seven bits; the state tells whether pairs are meant. Two
characters after a tilde change it. -/
def hzFront (pairs : Bool) : List UInt8 → Front × Bool
  | [] => (.short, pairs)
  | [a] =>
    (if !isPlain a then .bad 1 else if a = 0x7E || pairs then .short else plainFront a, pairs)
  | a :: b :: _ =>
    if a = 0x7E then
      if pairs then (if b = 0x7D then (.text [] 2, false) else (.bad 1, pairs))
      else if b = 0x7E then (.text ['~'] 2, pairs)
      else if b = 0x7B then (.text [] 2, true)
      else if b = 0x0A then (.text [] 2, pairs)
      else (.bad 1, pairs)
    else if !isPlain a then (.bad 1, pairs)
    else if pairs then (.ofChar? 2 (chinese (a.toNat - 0x20) (b.toNat - 0x20)), pairs)
    else (plainFront a, pairs)

/-! ## Taiwan and Hong Kong -/

/-- The place of a second octet in two rows: which row, and where. -/
def rowPlace? (b : Nat) : Option (Nat × Nat) :=
  if 0x40 ≤ b && b ≤ 0x7E then some (0, b - 0x40)
  else if 0xA1 ≤ b && b ≤ 0xFE then some (1, b - 0xA1)
  else none

/-- A character of the chart of Taiwan. -/
def big5Char? (a b : Nat) : Option (List Char) :=
  if a < 0xA1 then none
  else do
    let (row, i) ← rowPlace? b
    let c ← rowChar? (big5Rows.getD ((a - 0xA1) * 2 + row) "") i
    some [c]

/-- A character of the extended set of Taiwan. -/
def windows950Char? (a b : Nat) : Option (List Char) :=
  match runChar? windows950Runs (a * 256 + b) with
  | some c => some [c]
  | none => big5Char? a b

/-- A character that the set of Hong Kong adds. -/
def addedChar? (a b : Nat) : Option (List Char) :=
  match hongKongPairs.lookup (a * 256 + b) with
  | some s => some s.toList
  | none => do
    let (row, i) ← rowPlace? b
    let (low, high) ← hongKongRows.lookup a
    let c ← rowChar? (if row = 0 then low else high) i
    some [c]

/-- Whether the place belongs to the additions of Hong Kong even where the chart of Taiwan has a
character. -/
def isOverruled (a b : Nat) : Bool := 0xC6 ≤ a && a ≤ 0xC8 && (0xC7 ≤ a || 0xA1 ≤ b)

def hongKongChar? (a b : Nat) : Option (List Char) :=
  match if isOverruled a b then none else big5Char? a b with
  | some cs => some cs
  | none => addedChar? a b

end SessionKeeper.Text.East

import SessionKeeper.Text.East.Chart
import SessionKeeper.Text.East.Ksx1001

/-!
# Korean sets

* `korean` : the Korean chart.
* `eucKrFront`, `windows949Char?`, `johabChar?` : the sets built on it.
-/

namespace SessionKeeper.Text.East

def korean : Chart := .ofRows ksx1001Rows

/-- A character of the chart in a pair of octets from 0xA1 on. -/
def ksx1001Char? (a b : Nat) : Option (List Char) := korean (a - 0xA0) (b - 0xA0)

/-! ## Syllables from letters -/

/-- A syllable of an initial, a vowel and a final. -/
def syllable (initial vowel final : Nat) : Char :=
  Char.ofNat (0xAC00 + initial * 588 + vowel * 28 + final)

/-- The initials by the column of their letters in the chart, from the first letter on. -/
def initialColumns : List (Option Nat) := [
  some 0, some 1, none, some 2, none, none, some 3, some 4, some 5, none, none, none, none, none, none,
  none, some 6, some 7, some 8, none, some 9, some 10, some 11, some 12, some 13, some 14, some 15,
  some 16, some 17, some 18]

/-- The finals by the column of their letters in the chart, from the first letter on. -/
def finalColumns : List (Option Nat) := [
  some 1, some 2, some 3, some 4, some 5, some 6, some 7, none, some 8, some 9, some 10, some 11, some 12,
  some 13, some 14, some 15, some 16, some 17, none, some 18, some 19, some 20, some 21, some 22, none,
  some 23, some 24, some 25, some 26, some 27]

/-- The second octet of the filler, which stands for a missing letter and begins a made-up syllable. -/
def filler : Nat := 0xD4

/-- The first octet of the letters. -/
def letterRow : UInt8 := 0xA4

/-- A made-up syllable: three letters after the filler. -/
def madeUp? (initial vowel final : Nat) : Option Char := do
  let i ← if 0xA1 ≤ initial then (initialColumns[initial - 0xA1]?).bind id else none
  let v ← if 0xBF ≤ vowel && vowel ≤ 0xD3 then some (vowel - 0xBF) else none
  let f ← if final = filler then some 0
    else if 0xA1 ≤ final then (finalColumns[final - 0xA1]?).bind id else none
  some (syllable i v f)

/-- What stands in front of eight octets that begin with the filler. -/
def madeUpFront : List UInt8 → Front
  | _ :: _ :: a :: i :: b :: v :: c :: f :: _ =>
    if a = letterRow && b = letterRow && c = letterRow then
      .ofChar? 8 ((madeUp? i.toNat v.toNat f.toNat).map fun ch => [ch])
    else .bad 1
  | _ => .short

/-- What stands in front of octets of the plain Korean set. -/
def eucKrFront (bs : List UInt8) : Front :=
  match bs with
  | a :: b :: _ =>
    if a = letterRow && b.toNat = filler then madeUpFront bs else pairsFront ksx1001Char? bs
  | _ => pairsFront ksx1001Char? bs

/-! ## All syllables -/

/-- The syllables that the chart does not hold, in their order. -/
def unlistedSyllables : Array Char :=
  let held := (ksx1001Rows.flatMap String.toList).foldl (fun (a : Array Bool) c =>
    if 0xAC00 ≤ c.toNat then a.setIfInBounds (c.toNat - 0xAC00) true else a) (Array.replicate 11172 false)
  ((List.range 11172).filter fun i => !held.getD i true).map (fun i => Char.ofNat (0xAC00 + i)) |>.toArray

/-- The number of a second octet: capital letters, small letters, and what lies beyond the plain
characters. -/
def syllableColumn? (b : Nat) : Option Nat :=
  if 0x41 ≤ b && b ≤ 0x5A then some (b - 0x41)
  else if 0x61 ≤ b && b ≤ 0x7A then some (b - 0x61 + 26)
  else if 0x81 ≤ b && b ≤ 0xFE then some (b - 0x81 + 52)
  else none

/-- The number of an unlisted syllable by its two octets: full rows in front of the chart, then the left
part of its rows. -/
def syllableIndex? (a b : Nat) : Option Nat := do
  let column ← syllableColumn? b
  if 0x81 ≤ a && a ≤ 0xA0 then some ((a - 0x81) * 178 + column)
  else if 0xA1 ≤ a && a ≤ 0xC6 && b ≤ 0xA0 then some (32 * 178 + (a - 0xA1) * 84 + column)
  else none

/-- A character of the extended Korean set. -/
def windows949Char? (a b : Nat) : Option (List Char) :=
  match if 0xA1 ≤ a && 0xA1 ≤ b then ksx1001Char? a b else none with
  | some cs => some cs
  | none => ((syllableIndex? a b).bind fun i => unlistedSyllables[i]?).map fun c => [c]

/-! ## Letters in five bits -/

/-- What five bits mean: nothing, a missing letter, or the number of a letter. -/
inductive Jamo where
  | none
  | missing
  | letter (n : Nat)

def initialJamo (n : Nat) : Jamo :=
  if n = 1 then .missing else if 2 ≤ n && n ≤ 20 then .letter (n - 2) else .none

/-- The vowels in five bits, in groups with two places between them. -/
def vowelJamo (n : Nat) : Jamo :=
  if n = 2 then .missing
  else if 3 ≤ n && n ≤ 7 then .letter (n - 3)
  else if 10 ≤ n && n ≤ 15 then .letter (n - 5)
  else if 18 ≤ n && n ≤ 23 then .letter (n - 7)
  else if 26 ≤ n && n ≤ 29 then .letter (n - 9)
  else .none

def finalJamo (n : Nat) : Jamo :=
  if n = 1 then .missing
  else if 2 ≤ n && n ≤ 17 then .letter (n - 1)
  else if 19 ≤ n && n ≤ 29 then .letter (n - 2)
  else .none

/-- The letter of a number among the initials or the finals, by its column in the chart. -/
def columnLetter? (columns : List (Option Nat)) (n : Nat) : Option Char :=
  match columns.idxOf (some n) with
  | i => if i < columns.length then some (Char.ofNat (0x3131 + i)) else Option.none

/-- The character of three letters in five bits; one letter alone stands for itself. -/
def jamoChar? (i v f : Jamo) : Option Char :=
  match i, v, f with
  | .missing, .missing, .missing => some '\u3000'
  | .missing, .missing, .letter n => columnLetter? finalColumns n
  | .missing, .letter n, .missing => some (Char.ofNat (0x314F + n))
  | .letter n, .missing, .missing => columnLetter? initialColumns n
  | .letter n, .letter m, .missing => some (syllable n m 0)
  | .letter n, .letter m, .letter k => some (syllable n m k)
  | _, _, _ => Option.none

/-- A sign or a Chinese character of the chart in a pair of octets. -/
def johabSign? (a b : Nat) : Option (List Char) :=
  if a < 0xD9 || a = 0xDF || 0xF9 < a || b < 0x31 || (0x80 ≤ b && b < 0x91) || b % 128 = 0x7F ||
      (a = 0xDA && 0xA1 ≤ b && b ≤ 0xD3) then Option.none
  else
    let column := if b < 0x91 then b - 0x31 else b - 0x43
    let row := if a < 0xE0 then 2 * (a - 0xD9) else 2 * a - 0x197
    korean (row + (if column < 94 then 0 else 1) + 1) (column % 94 + 1)

/-- A character of the set with letters in five bits. -/
def johabChar? (a b : Nat) : Option (List Char) :=
  if a < 0xD8 then
    let n := a * 256 + b
    (jamoChar? (initialJamo (n / 1024 % 32)) (vowelJamo (n / 32 % 32)) (finalJamo (n % 32))).map
      fun c => [c]
  else johabSign? a b

end SessionKeeper.Text.East

import SessionKeeper.Text.Utf8

/-!
# Charts of characters

* `Chart`, `Chart.ofRows` : characters by row and column.
* `runChar?` : characters in runs of numbers.
* `Front`, `scan` : octets to text by what stands in front of them.
-/

namespace SessionKeeper.Text.East

/-- Characters by row and column, both counted from one. -/
abbrev Chart := Nat → Nat → Option (List Char)

/-- The character at a place of a row, counted from zero; the replacement character marks a gap. -/
def rowChar? (row : String) (i : Nat) : Option Char := row.toList[i]?.filter (· ≠ replacement)

def Chart.ofRows (rows : List String) : Chart := fun r c =>
  if r = 0 || c = 0 then none
  else (rows[r - 1]?.bind (rowChar? · (c - 1))).map fun ch => [ch]

/-- The character of a number in runs, each with the number of its first character. -/
def runChar? (runs : List (Nat × String)) (n : Nat) : Option Char :=
  runs.findSome? fun (first, chars) => if first ≤ n then chars.toList[n - first]? else none

/-- What stands in front of some octets: text that takes a number of them, octets that are no text, or
too few to tell. -/
inductive Front where
  | text (cs : List Char) (used : Nat)
  | bad (used : Nat)
  | short

/-- A character that takes some octets; none where there is no character, and the first octet is no
text then. -/
def Front.ofChar? (used : Nat) : Option (List Char) → Front
  | some cs => .text cs used
  | none => .bad 1

/-- The greatest number of octets at the end that may be too few to tell. -/
def maxPending : Nat := 8

/-- Octets to text from a state on, with a replacement character for what is no text; `fuel` bounds the
number of characters. There is no text if too many octets at the end are too few to tell. -/
def scan {σ : Type} (front : σ → List UInt8 → Front × σ) : Nat → σ → List UInt8 → Option (List Char)
  | _, _, [] => some []
  | 0, _, _ => some []
  | fuel + 1, s, bs =>
    match front s bs with
    | (.text cs used, next) => (scan front fuel next (bs.drop used)).map (cs ++ ·)
    | (.bad used, next) => (scan front fuel next (bs.drop used)).map (replacement :: ·)
    | (.short, _) => if maxPending < bs.length then none else some [replacement]

/-- The same for sets without a state. -/
def scanPlain (front : List UInt8 → Front) (bs : List UInt8) : Option (List Char) :=
  scan (fun (_ : Unit) bs => (front bs, ())) bs.length () bs

def isPlain (b : UInt8) : Bool := b < 128

def plainFront (b : UInt8) : Front := .text [Char.ofNat b.toNat] 1

/-- What stands in front of octets of a set with plain characters and pairs. -/
def pairsFront (char? : Nat → Nat → Option (List Char)) : List UInt8 → Front
  | [] => .short
  | [a] => if isPlain a then plainFront a else .short
  | a :: b :: _ => if isPlain a then plainFront a else .ofChar? 2 (char? a.toNat b.toNat)

end SessionKeeper.Text.East

import SessionKeeper.Text.Composition.Table
import SessionKeeper.Text.Mark

/-!
# Letters with their marks

A letter with a mark can be written as one character or as two; the composed form uses one where there
is one.

* `Composition.decomposed` : every character in its parts.
* `Composition.composed` : letters and marks as one character where there is one.
* `Composition.isNormal` : whether a text is in the composed form.
-/

namespace SessionKeeper.Text.Composition

/-- The two parts of a composite, or else the character itself. -/
def parts (n : Nat) : List Nat :=
  match composites.find? (·.whole = n) with
  | some c => [c.letter, c.mark]
  | none => [n]

/-- Every character in its parts; the letter of a composite may be one itself, but not the letter of
that one. -/
def decomposed (cs : List Nat) : List Nat := (cs.flatMap parts).flatMap parts

/-- The character for a letter with a mark after it. -/
def whole? (letter mark : Nat) : Option Nat :=
  (composites.find? fun c => c.letter = letter && c.mark = mark).map (·.whole)

/-- A text on its way to the composed form: what is finished, the last letter, and the marks after it
that stay; the lists are held in reverse. -/
structure Draft where
  done : List Nat
  letter : Option Nat
  marks : List Nat

def Draft.reversed (d : Draft) : List Nat := d.marks ++ (d.letter.toList ++ d.done)

/-- Whether a character comes right after the letter, or only after marks of lower places. -/
def Draft.reaches (d : Draft) (n : Nat) : Bool :=
  match d.marks with
  | [] => true
  | m :: _ => Mark.place m < Mark.place n

/-- Takes one character more: into the letter if it reaches it and there is a composite. -/
def Draft.take (d : Draft) (n : Nat) : Draft :=
  match (if d.reaches n then d.letter.bind (whole? · n) else none) with
  | some c => { d with letter := some c }
  | none => if Mark.place n = 0 then ⟨d.reversed, some n, []⟩ else { d with marks := n :: d.marks }

/-- Letters and marks as one character where there is one; the marks are in the order of their places. -/
def composed (cs : List Nat) : List Nat := (cs.foldl Draft.take ⟨[], none, []⟩).reversed.reverse

def isNormal (cs : List Nat) : Bool := composed (Mark.ordered (decomposed cs)) == cs

end SessionKeeper.Text.Composition

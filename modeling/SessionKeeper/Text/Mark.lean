import SessionKeeper.Text.Mark.Table

/-!
# Marks

* `Mark.isMark`, `Mark.isNonspacing` : marks of either kind, and those that take no room.
* `Mark.place` : the place of a mark around its letter, zero for anything else.
* `Mark.ordered` : a text with the marks of each letter in the order of their places.
-/

namespace SessionKeeper.Text.Mark

/-- Whether the character is a mark that takes no room of its own. -/
def isNonspacing (n : Nat) : Bool := Block.coversCode nonspacing n

def isMark (n : Nat) : Bool := isNonspacing n || Block.coversCode spacing n

/-- The place of a mark around its letter; zero for anything else. -/
def place (n : Nat) : Nat :=
  match placed.find? (·.2.holds n) with
  | some (p, _) => p
  | none => 0

/-- The place of the marks that end a syllable without a vowel. -/
def syllableEnd : Nat := 9

/-- Puts a character behind a text that is held in reverse: a mark goes before the marks of later
places. -/
def insert (n : Nat) : List Nat → List Nat
  | [] => [n]
  | m :: rest => if place n ≠ 0 && place n < place m then m :: insert n rest else n :: m :: rest

/-- The text with the marks of each letter in the order of their places; marks in the same place keep
theirs. -/
def ordered (cs : List Nat) : List Nat := (cs.foldl (fun done n => insert n done) []).reverse

end SessionKeeper.Text.Mark

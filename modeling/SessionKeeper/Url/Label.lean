import SessionKeeper.Text.Composition
import SessionKeeper.Text.Direction
import SessionKeeper.Text.Pieces
import SessionKeeper.Text.Punycode
import SessionKeeper.Url.Label.Table

/-!
# Labels of host names

A host name with characters beyond the basic ones is a row of labels. Each label keeps the rules for
international names, and is written in basic characters behind a mark.

* `Label.isJoinerPlaced`, `Label.isSignPlaced` : characters that may stand in certain places only.
* `Label.keepsDirection` : the rule for labels with letters that run from the right.
* `Label.isValid` : all rules for a label.
* `Label.written?` : a label in basic characters.
* `Label.host?` : a host name in basic characters.
-/

namespace SessionKeeper.Url.Label

open Text

/-! ## Characters in their places -/

/-- The sign that keeps two letters apart. -/
def nonJoiner : Nat := 0x200C

def joiner : Nat := 0x200D

/-- Whether a search for the next joining letter looks through the character. -/
def isTransparent (n : Nat) : Bool :=
  (Mark.isNonspacing n && n ≠ 0x1171E) || [0xCBF, 0xCC6, 0x11A07, 0x11A08, 0x11C3F, 0x1E94B].contains n

/-- Whether the first character that is not looked through lies in one of the tables. -/
def reaches (tables : List (List Block)) (cs : List Nat) : Bool :=
  match cs.dropWhile isTransparent with
  | n :: _ => tables.any fun blocks => Block.coversCode blocks n
  | [] => false

/-- Whether a text in reverse ends a syllable without a vowel. -/
def endsSyllable (before : List Nat) : Bool := before.head?.any (Mark.place · = Mark.syllableEnd)

/-- Whether a sign that joins or parts letters stands where it matters; `before` is in reverse. -/
def isJoinerPlaced (before : List Nat) (n : Nat) (after : List Nat) : Bool :=
  endsSyllable before ||
    (n = nonJoiner && reaches [joinsLeft, joinsBoth] before && reaches [joinsRight, joinsBoth] after)

def arabicDigits : Block := ⟨0x660, 0x669⟩

def easternDigits : Block := ⟨0x6F0, 0x6F9⟩

def isLetter (c : Char) (neighbour : Option Nat) : Bool := neighbour = some c.toNat

/-- Whether a sign that belongs to certain letters stands beside one; digits of two rows do not mix. -/
def isSignPlaced (before : List Nat) (n : Nat) (after : List Nat) : Bool :=
  let label := before ++ after
  if n = 0xB7 then isLetter 'l' before.head? && isLetter 'l' after.head?
  else if n = 0x375 then after.head?.any (Block.coversCode greek)
  else if n = 0x5F3 || n = 0x5F4 then before.head?.any (Block.coversCode hebrew)
  else if n = 0x30FB then label.any (Block.coversCode kana)
  else if arabicDigits.holds n then !label.any easternDigits.holds
  else if easternDigits.holds n then !label.any arabicDigits.holds
  else false

/-- Whether the character may stand in its place. -/
def isPlaced (before : List Nat) (n : Nat) (after : List Nat) : Bool :=
  if n = nonJoiner || n = joiner then isJoinerPlaced before n after
  else Block.coversCode plain n || isSignPlaced before n after

/-- Whether each character may stand in its place; `before` is what precedes them, in reverse. -/
def arePlaced (before : List Nat) : List Nat → Bool
  | [] => true
  | n :: after => isPlaced before n after && arePlaced (n :: before) after

/-! ## Directions -/

/-- Whether the character makes its label one that has to keep the rule of directions. -/
def isFromRight (d : Direction) : Bool := d = .right || d = .arabic || d = .arabicNumber

def withoutMarks (ds : List Direction) : List Direction :=
  (ds.reverse.dropWhile (· = .nonspacing)).reverse

/-- Whether a label keeps the rule of directions. It binds labels with a character that runs from the
right: the first is a letter from the right, none runs from the left, the last is a letter or a digit,
and the digits are of one kind. -/
def keepsDirection (ds : List Direction) : Bool :=
  !ds.any isFromRight ||
    (ds.head?.any (fun d => d = .right || d = .arabic) && !ds.contains .left &&
      (withoutMarks ds).getLast?.any (fun d => isFromRight d || d = .number) &&
      !(ds.contains .number && ds.contains .arabicNumber))

/-! ## Labels -/

/-- Hyphens stand neither at an end nor together in the third and fourth place. -/
def keepsHyphens (label : List Nat) : Bool :=
  let hyphen := '-'.toNat
  (label.drop 2).take 2 ≠ [hyphen, hyphen] && label.head? ≠ some hyphen && label.getLast? ≠ some hyphen

def maxName : Nat := 253

def isValid (label : List Nat) : Bool :=
  !label.isEmpty && label.length ≤ maxName + 1 && keepsHyphens label &&
    !label.head?.any Mark.isMark && arePlaced [] label && Composition.isNormal label &&
    keepsDirection (label.map Direction.ofCode)

/-- The mark of a label beyond the basic characters. -/
def mark : List Char := "xn--".toList

/-- The length of the longest label in basic characters. -/
def maxLabel : Nat := 63

/-- Whether a label in basic characters is valid, or stands for a valid one. -/
def isBasicValid (cs : List Char) : Bool :=
  if cs.take 4 = mark then
    let rest := cs.drop 4
    !rest.isEmpty && rest.getLast? ≠ some '-' && (Punycode.decode? rest).any isValid
  else isValid (cs.map Char.toNat)

def written? (cs : List Char) : Option (List Char) :=
  let codes := cs.map Char.toNat
  let basic := codes.all Punycode.isBasic
  let written := if basic then cs else mark ++ Punycode.encode codes
  if (if basic then isBasicValid cs else isValid codes) && written.length ≤ maxLabel then some written
  else none

/-- Labels with points between them; a point may follow the last one. -/
def joined? (labels : List (List Char)) : Option (List Char) := do
  let ends := labels.getLast? = some []
  let written ← (if ends then labels.dropLast else labels).mapM written?
  let name := ['.'].intercalate (if ends then written ++ [[]] else written)
  if name.length ≤ maxName + (if ends then 1 else 0) && !written.isEmpty then some name else none

/-- The points that part the labels of a host name. -/
def isPoint (c : Char) : Bool := [0x2E, 0x3002, 0xFF0E, 0xFF61].contains c.toNat

def host? (cs : List Char) : Option (List Char) :=
  if maxName + 1 < cs.length then none else joined? (splitBy isPoint cs)

end SessionKeeper.Url.Label

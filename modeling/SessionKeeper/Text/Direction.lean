import SessionKeeper.Text.Mark

/-!
# Directions of writing

The tables are right for characters that may stand in the label of a host name.

* `Direction`, `Direction.ofCode` : how a character runs.
-/

namespace SessionKeeper.Text

/-- How a character runs: letters from the left or the right, Arabic letters, digits of two kinds, and
characters that run with their neighbours. -/
inductive Direction where
  | left
  | right
  | arabic
  | number
  | arabicNumber
  | neutral
  | nonspacing
deriving DecidableEq

namespace Direction

def rightBlocks : List Block := [
  ⟨1488, 1524⟩, ⟨1984, 2026⟩, ⟨2036, 2037⟩, ⟨2048, 2069⟩, ⟨2074, 2074⟩, ⟨2084, 2084⟩, ⟨2088, 2088⟩,
  ⟨2112, 2136⟩, ⟨67584, 68096⟩, ⟨68112, 68149⟩, ⟨68192, 68324⟩, ⟨68352, 68850⟩, ⟨69248, 69289⟩,
  ⟨69296, 69415⟩, ⟨69488, 69505⟩, ⟨69552, 69622⟩, ⟨124928, 125124⟩, ⟨125218, 125251⟩,
  ⟨125259, 125273⟩]

def arabicBlocks : List Block := [
  ⟨1568, 1610⟩, ⟨1646, 1647⟩, ⟨1649, 1749⟩, ⟨1765, 1766⟩, ⟨1774, 1775⟩, ⟨1786, 1808⟩, ⟨1810, 1839⟩,
  ⟨1869, 1957⟩, ⟨1969, 1969⟩, ⟨2144, 2190⟩, ⟨2208, 2249⟩, ⟨65139, 65139⟩, ⟨68864, 68899⟩,
  ⟨69424, 69445⟩]

/-- Digits that run from the left. -/
def numberBlocks : List Block := [
  ⟨48, 57⟩, ⟨1776, 1785⟩]

def arabicNumberBlocks : List Block := [
  ⟨1632, 1641⟩, ⟨68912, 68921⟩]

def neutralBlocks : List Block := [
  ⟨45, 45⟩, ⟨183, 183⟩, ⟨697, 698⟩, ⟨710, 719⟩, ⟨748, 748⟩, ⟨885, 885⟩, ⟨8204, 8205⟩,
  ⟨11823, 11823⟩, ⟨12539, 12539⟩, ⟨42623, 42623⟩, ⟨42775, 42783⟩, ⟨42888, 42888⟩]

/-- The direction of a character; what stands in no table runs from the left. -/
def ofCode (n : Nat) : Direction :=
  if Block.coversCode rightBlocks n then right
  else if Block.coversCode arabicBlocks n then arabic
  else if Block.coversCode numberBlocks n then number
  else if Block.coversCode arabicNumberBlocks n then arabicNumber
  else if Block.coversCode neutralBlocks n then neutral
  else if Mark.isNonspacing n then nonspacing
  else left

end Direction

end SessionKeeper.Text

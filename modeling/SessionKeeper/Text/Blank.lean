import SessionKeeper.Text.Block

/-!
# White space

* `isBlank` : the characters that count as white space when text is trimmed.
* `isSpacing` : the same without the four separators U+001C to U+001F; trimming of numbers and
  dates goes by this narrower class.
* `trimBy`, `strip` : text without the white space at its two ends.
-/

namespace SessionKeeper.Text

/-- White space of the wider class. -/
def blankBlocks : List Block := [
  ⟨9, 13⟩, ⟨28, 32⟩, ⟨133, 133⟩, ⟨160, 160⟩, ⟨5760, 5760⟩, ⟨8192, 8202⟩, ⟨8232, 8233⟩, ⟨8239, 8239⟩,
  ⟨8287, 8287⟩, ⟨12288, 12288⟩]

/-- Whether trimming removes the character. -/
def isBlank (c : Char) : Bool := Block.covers blankBlocks c

/-- White space without the separators U+001C to U+001F. -/
def isSpacing (c : Char) : Bool := isBlank c && !(28 ≤ c.toNat && c.toNat ≤ 31)

/-- The text without the characters of a class at its end. -/
def trimEnd (p : Char → Bool) (cs : List Char) : List Char := (cs.reverse.dropWhile p).reverse

/-- The text without the characters of a class at its two ends. -/
def trimBy (p : Char → Bool) (cs : List Char) : List Char := trimEnd p (cs.dropWhile p)

/-- The text without white space at its two ends. -/
def strip (s : String) : String := String.ofList (trimBy isBlank s.toList)

end SessionKeeper.Text

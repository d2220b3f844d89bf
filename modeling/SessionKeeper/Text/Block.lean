/-!
# Blocks of characters

* `Block` : the code points from `first` to `last`.
* `Block.covers`, `Block.coversCode` : membership of a character or a code point in a list of blocks.
-/

namespace SessionKeeper.Text

/-- The code points from `first` to `last`, both ends included. -/
structure Block where
  first : Nat
  last : Nat

/-- Whether the code point lies in the block. -/
def Block.holds (b : Block) (n : Nat) : Bool := b.first ≤ n && n ≤ b.last

/-- Whether the code point lies in one of the blocks. -/
def Block.coversCode (blocks : List Block) (n : Nat) : Bool := blocks.any (·.holds n)

/-- Whether the character lies in one of the blocks. -/
def Block.covers (blocks : List Block) (c : Char) : Bool := Block.coversCode blocks c.toNat

end SessionKeeper.Text

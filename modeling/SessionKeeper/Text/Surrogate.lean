/-!
# Unpaired surrogates

Escapes may name one half of a surrogate pair alone. Such a half is no character; text keeps it as
one of 2048 code points of a plane in which nothing is assigned.

* `ofSurrogate` : the code point that stands for a half.
* `surrogate?` : the half that a code point stands for.
-/

namespace SessionKeeper.Text

/-- The first code point of the plane. -/
def surrogatePlane : Nat := 0xD0000

/-- The code point that stands for a lone half. -/
def ofSurrogate (unit : Nat) : Char := Char.ofNat (surrogatePlane + unit)

/-- The half that the code point stands for. -/
def surrogate? (c : Char) : Option Nat :=
  if surrogatePlane + 0xD800 ≤ c.toNat && c.toNat < surrogatePlane + 0xE000 then
    some (c.toNat - surrogatePlane)
  else none

/-- Whether the code point stands for a half. -/
def isLoneHalf (c : Char) : Bool := (surrogate? c).isSome

/-- Whether the number is the first half of a pair. -/
def isHigh (n : Nat) : Bool := 0xD800 ≤ n && n < 0xDC00

/-- Whether the number is the second half of a pair. -/
def isLow (n : Nat) : Bool := 0xDC00 ≤ n && n < 0xE000

/-- The character that two halves name. -/
def pair (high low : Nat) : Char := Char.ofNat (0x10000 + (high - 0xD800) * 0x400 + (low - 0xDC00))

/-- A code point that may be a lone half. -/
def ofCode (n : Nat) : Char := if isHigh n || isLow n then ofSurrogate n else Char.ofNat n

end SessionKeeper.Text

import SessionKeeper.Decimal.Read

/-!
# Numbers

* `Number` : an exact integer or a floating-point number; the two kinds stay apart when they are
  passed on.
* `Number.compare?` : exact comparison across the two kinds.
* `Number.add`, `Number.sub`, `Number.mul` : exact on integers, otherwise in floating point.
-/

namespace SessionKeeper

open Decimal

/-- An exact integer or a floating-point number. -/
inductive Number where
  | integer (i : Int)
  | real (x : Float)
deriving Inhabited

namespace Number

def toFloat : Number → Float
  | integer i => floatOfInt i
  | real x => x

def text : Number → List Char
  | integer i => integerText i
  | real x => floatText x

def isZero : Number → Bool
  | integer i => i == 0
  | real x => x == 0.0

/-- The sign of a finite floating-point number times its magnitude, as a fraction. -/
def fraction (x : Float) : Int × Nat :=
  let b := Binary.ofFloat x
  let n : Int := b.mantissa * twoTo b.exponent.toNat
  (if x < 0.0 then -n else n, twoTo (-b.exponent).toNat)

/-- Compares an integer with a floating-point number without rounding. -/
def compareMixed (i : Int) (x : Float) : Option Ordering :=
  if x.isNaN then none
  else if x.isInf then some (if x < 0.0 then .gt else .lt)
  else
    let (n, d) := fraction x
    some (compare (i * d) n)

/-- Exact comparison; what is no number compares with nothing. -/
def compare? : Number → Number → Option Ordering
  | integer i, integer j => some (compare i j)
  | integer i, real y => compareMixed i y
  | real x, integer j => (compareMixed j x).map Ordering.swap
  | real x, real y =>
    if x < y then some .lt else if y < x then some .gt else if x == y then some .eq else none

def less (a b : Number) : Bool := a.compare? b == some .lt

def atMost (a b : Number) : Bool := a.compare? b == some .lt || a.compare? b == some .eq

/-- Equal values, of whatever kind. -/
def same (a b : Number) : Bool := a.compare? b == some .eq

def combine (exact : Int → Int → Int) (rounded : Float → Float → Float) : Number → Number → Number
  | integer i, integer j => integer (exact i j)
  | a, b => real (rounded a.toFloat b.toFloat)

def add (a b : Number) : Number := combine (· + ·) (· + ·) a b

def sub (a b : Number) : Number := combine (· - ·) (· - ·) a b

def mul (a b : Number) : Number := combine (· * ·) (· * ·) a b

instance : Add Number := ⟨add⟩
instance : Sub Number := ⟨sub⟩
instance : Mul Number := ⟨mul⟩
instance : LE Number := ⟨fun a b => a.atMost b = true⟩
instance (a b : Number) : Decidable (a ≤ b) := inferInstanceAs (Decidable (a.atMost b = true))
instance (n : Nat) : OfNat Number n := ⟨integer n⟩

end Number

end SessionKeeper

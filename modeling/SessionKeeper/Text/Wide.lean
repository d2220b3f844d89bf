import SessionKeeper.Text.Surrogate

/-!
# Texts in units of two and four octets

* `units16`, `units32` : octets to units, in either order of octets; octets left over are a gap.
* `scan16`, `scan32` : units to characters; a unit that names no character is a gap.
-/

namespace SessionKeeper.Text

/-- Units of two octets; an octet left over is a gap. -/
def units16 (big : Bool) : List UInt8 → List (Option Nat)
  | [] => []
  | [_] => [none]
  | a :: b :: rest =>
    some (if big then a.toNat * 256 + b.toNat else b.toNat * 256 + a.toNat) :: units16 big rest

/-- Units of four octets; octets left over are a gap. -/
def units32 (big : Bool) : List UInt8 → List (Option Nat)
  | [] => []
  | a :: b :: c :: d :: rest =>
    let n (w x y z : UInt8) := ((w.toNat * 256 + x.toNat) * 256 + y.toNat) * 256 + z.toNat
    some (if big then n a b c d else n d c b a) :: units32 big rest
  | _ => [none]

/-- The character of one unit; a half alone is one if `halves` and a gap if not. -/
def unitChar (halves : Bool) (n : Nat) : Option Char :=
  if (isHigh n || isLow n) && !halves then none else some (ofCode n)

/-- Characters of units of two octets: two halves in a row make one character, and a first half before
an octet left over is one gap with it. -/
def scan16 (halves : Bool) : List (Option Nat) → List (Option Char)
  | [] => []
  | some h :: some l :: rest =>
    if isHigh h && isLow l then some (pair h l) :: scan16 halves rest
    else unitChar halves h :: scan16 halves (some l :: rest)
  | some h :: none :: rest =>
    if isHigh h then none :: scan16 halves rest
    else unitChar halves h :: none :: scan16 halves rest
  | [some h] => [unitChar halves h]
  | none :: rest => none :: scan16 halves rest

def scan32 (halves : Bool) (units : List (Option Nat)) : List (Option Char) :=
  units.map fun u => u.bind fun n =>
    if 0x10FFFF < n then none else unitChar halves n

end SessionKeeper.Text

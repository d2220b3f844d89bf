/-!
# The fewest digits that read back

* `twoTo`, `tenTo` : powers of two and of ten.
* `Binary` : the magnitude of a finite floating-point number, `mantissa * 2 ^ exponent`.
* `Binary.readsBack` : a decimal is nearer to the number than to its neighbours.
* `Binary.shortest` : of the decimals with the fewest digits that read back, the nearest.
-/

namespace SessionKeeper.Decimal

/-- A non-negative number `mantissa * 2 ^ exponent`. -/
structure Binary where
  mantissa : Nat
  exponent : Int
  /-- The gap to the number below is half the gap to the number above. -/
  narrowBelow : Bool

/-- The decimal `digits * 10 ^ exponent`. -/
structure Scaled where
  digits : Nat
  exponent : Int
deriving DecidableEq

def twoTo (n : Nat) : Nat := Nat.pow 2 n

def tenTo (n : Nat) : Nat := Nat.pow 10 n

/-- The magnitude of a finite floating-point number. -/
def Binary.ofFloat (x : Float) : Binary :=
  let bits := x.toBits
  let e := ((bits >>> 52) &&& 0x7FF).toNat
  let f := (bits &&& 0xFFFFFFFFFFFFF).toNat
  if e = 0 then ⟨f, -1074, false⟩ else ⟨twoTo 52 + f, (e : Int) - 1075, f = 0 && 1 < e⟩

/-- Compares `a * 10 ^ i` with `n * 2 ^ j`. -/
def compareScaled (a : Nat) (i : Int) (n : Nat) (j : Int) : Ordering :=
  compare (a * tenTo i.toNat * twoTo (-j).toNat) (n * twoTo j.toNat * tenTo (-i).toNat)

/-- Whether the decimal lies among the reals that round to the number; the ends of that interval
belong to it when the mantissa is even. -/
def Binary.readsBack (x : Binary) (d : Scaled) : Bool :=
  let low := if x.narrowBelow then 4 * x.mantissa - 1 else 4 * x.mantissa - 2
  let high := 4 * x.mantissa + 2
  let closed := x.mantissa % 2 = 0
  let below := compareScaled d.digits d.exponent low (x.exponent - 2)
  let above := compareScaled d.digits d.exponent high (x.exponent - 2)
  (below = .gt || (closed && below = .eq)) && (above = .lt || (closed && above = .eq))

def digitCount (n : Nat) : Nat := (Nat.toDigits 10 n).length

/-- The least `p` with the number below `10 ^ p`. -/
def Binary.scale (x : Binary) : Int :=
  let whole := x.mantissa * twoTo x.exponent.toNat
  let part := twoTo (-x.exponent).toNat
  if part ≤ whole then digitCount (whole / part)
  else
    let inverse := part / whole
    if inverse * whole = part && tenTo (digitCount inverse - 1) = inverse then
      2 - (digitCount inverse : Int)
    else 1 - (digitCount inverse : Int)

/-- The number divided by `10 ^ e`, rounded down. -/
def Binary.quotient (x : Binary) (e : Int) : Nat :=
  (x.mantissa * twoTo x.exponent.toNat * tenTo (-e).toNat) / (twoTo (-x.exponent).toNat * tenTo e.toNat)

/-- The better of the two neighbours of the number on the grid `10 ^ e`, if one reads back: the
nearer one, and on a tie the even one. -/
def Binary.onGrid (x : Binary) (e : Int) : Option Scaled :=
  let c := x.quotient e
  let below : Scaled := ⟨c, e⟩
  let above : Scaled := ⟨c + 1, e⟩
  match x.readsBack below, x.readsBack above with
  | false, false => none
  | true, false => some below
  | false, true => some above
  | true, true =>
    match compareScaled (2 * c + 1) e (2 * x.mantissa) x.exponent with
    | .lt => some above
    | .gt => some below
    | .eq => some (if c % 2 = 0 then below else above)

/-- The decimal without zeros at the end of its digits; `fuel` bounds their number. -/
def Scaled.trimmed (d : Scaled) : Nat → Scaled
  | 0 => d
  | fuel + 1 =>
    if d.digits % 10 = 0 && d.digits ≠ 0 then Scaled.trimmed ⟨d.digits / 10, d.exponent + 1⟩ fuel
    else d

/-- The decimal with the fewest digits that reads back as the number, which is not zero. -/
def Binary.shortest (x : Binary) : Scaled :=
  let p := x.scale
  match (List.range 17).findSome? (fun (n : Nat) => x.onGrid (p - (n + 1 : Nat))) with
  | some d => d.trimmed 20
  | none => ⟨x.mantissa * twoTo x.exponent.toNat * Nat.pow 5 (-x.exponent).toNat, min x.exponent 0⟩

end SessionKeeper.Decimal

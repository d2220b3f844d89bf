import SessionKeeper.Decimal.Shortest

/-!
# Numbers as text

* `integerText` : an integer in decimal digits.
* `floatText` : a floating-point number with the fewest digits that read back.
-/

namespace SessionKeeper.Decimal

def naturalText (n : Nat) : List Char := Nat.toDigits 10 n

/-- An integer in decimal digits, a minus sign in front of a negative one. -/
def integerText : Int → List Char
  | .ofNat n => naturalText n
  | .negSucc n => '-' :: naturalText (n + 1)

/-- The digits with zeros in front up to a width. -/
def padded (width : Nat) (ds : List Char) : List Char := List.replicate (width - ds.length) '0' ++ ds

/-- Positional form below `10 ^ 16` and from `10 ^ -4` on, always with a point; otherwise a signed
exponent of at least two digits. -/
def Scaled.text (d : Scaled) : List Char :=
  let ds := naturalText d.digits
  let point := (ds.length : Int) + d.exponent
  if -4 < point && point ≤ 16 then
    if point ≤ 0 then '0' :: '.' :: (List.replicate (-point).toNat '0' ++ ds)
    else if (ds.length : Int) ≤ point then
      ds ++ List.replicate (point.toNat - ds.length) '0' ++ ['.', '0']
    else ds.take point.toNat ++ '.' :: ds.drop point.toNat
  else
    let lead := ds.take 1
    let rest := ds.drop 1
    let e := point - 1
    lead ++ (if rest.isEmpty then [] else '.' :: rest) ++ 'e' :: (if e < 0 then '-' else '+') ::
      padded 2 (naturalText e.natAbs)

/-- A floating-point number as text; the values that are no numbers are `inf`, `-inf` and `nan`. -/
def floatText (x : Float) : List Char :=
  if x.isNaN then "nan".toList
  else
    let negative := x.toBits >>> 63 = 1
    let magnitude :=
      if x.isInf then "inf".toList
      else
        let b := Binary.ofFloat x
        if b.mantissa = 0 then "0.0".toList else b.shortest.text
    if negative then '-' :: magnitude else magnitude

end SessionKeeper.Decimal

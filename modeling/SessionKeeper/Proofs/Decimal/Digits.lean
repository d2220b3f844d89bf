import Mathlib.Algebra.Group.Nat.Defs
import Mathlib.Data.List.Induction
import Mathlib.Tactic.Common
import SessionKeeper.Decimal.Read

/-!
# Digits in a fixed width

* `Decimal.length_padded`, `Decimal.isDigit_of_mem_padded`, `Decimal.ofDigitChars_padded` : a number in a width that is
  enough for it.
* `Decimal.Writes`, `Decimal.writes_padded` : digits that write a number, as they are read.
* `Decimal.ofDigits_lt` : what digits write lies below the power of ten of their number.
-/

namespace SessionKeeper.Decimal

theorem isDigit_of_mem_padded {width n : Nat} {c : Char} (hc : c ∈ padded width (naturalText n)) :
    c.isDigit = true := by
  unfold padded at hc
  rcases List.mem_append.mp hc with hzero | hdigit
  · obtain rfl : c = '0' := List.eq_of_mem_replicate hzero
    decide
  · exact Nat.isDigit_of_mem_toDigits (by decide) (by decide) hdigit

theorem ofDigitChars_padded (width n : Nat) : Nat.ofDigitChars 10 (padded width (naturalText n)) 0 = n := by
  unfold padded naturalText
  rw [Nat.ofDigitChars_append, Nat.ofDigitChars_replicate_zero, Nat.mul_zero, Nat.ofDigitChars_ten_toDigits]

theorem length_padded {width n : Nat} (hwidth : 0 < width) (h : n < 10 ^ width) :
    (padded width (naturalText n)).length = width := by
  have hdigits : (naturalText n).length ≤ width := (Nat.length_toDigits_le_iff (by decide) hwidth).mpr h
  unfold padded
  rw [List.length_append, List.length_replicate]
  omega

/-! ## Reading -/

theorem isDigit_eq (c : Char) : isDigit c = c.isDigit := rfl

theorem ofDigits_eq (ds : List Char) : ofDigits ds = Nat.ofDigitChars 10 ds 0 := by
  unfold ofDigits Nat.ofDigitChars
  congr 1
  funext n c
  rw [Nat.mul_comm]
  rfl

theorem ofDigits_lt {ds : List Char} (h : ∀ c ∈ ds, isDigit c = true) : ofDigits ds < 10 ^ ds.length := by
  induction ds using List.reverseRecOn with
  | nil => decide
  | append_singleton ds c ih =>
    have hrest := ih fun d hd => h d (List.mem_append_left [c] hd)
    have hcode := Char.isDigit_iff_toNat.mp (h c (by simp))
    have hlast : '9'.toNat = 57 := by decide
    rw [ofDigits, List.foldl_append, ← ofDigits, List.length_append, List.length_singleton, Nat.pow_succ]
    simp only [List.foldl_cons, List.foldl_nil]
    omega

/-- The digits write the number in the width. -/
structure Writes (ds : List Char) (width n : Nat) : Prop where
  length : ds.length = width
  digits : ∀ c ∈ ds, isDigit c = true
  value : ofDigits ds = n

theorem writes_padded {width n : Nat} (hwidth : 0 < width) (h : n < 10 ^ width) :
    Writes (padded width (naturalText n)) width n where
  length := length_padded hwidth h
  digits _ hc := (isDigit_eq _).trans (isDigit_of_mem_padded hc)
  value := (ofDigits_eq _).trans (ofDigitChars_padded width n)

end SessionKeeper.Decimal

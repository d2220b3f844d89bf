import SessionKeeper.Decimal.Read
import SessionKeeper.Text.Blank
import SessionKeeper.Text.Digit

/-!
# Numbers in digits of any script

* `Numeral.plain` : a text without white space around it and with basic digits.
* `Numeral.integer` : the integer that a text writes.
* `Numeral.real?` : the floating-point number that a text writes.
-/

namespace SessionKeeper.Decimal.Numeral

open Text

/-- The text without white space around it and with basic digits. -/
def plain (cs : List Char) : List Char := trimBy isSpacing (cs.map plainDigit)

/-- Why a text is no integer. -/
inductive Failure where
  | unreadable
  | tooLong (digits : Nat)
deriving DecidableEq

/-- The greatest number of digits of an integer to the base ten. -/
def maxDigits : Nat := 4300

/-- The digits in front of a text, single underscores between them left out. -/
def leading (cs : List Char) : List Char :=
  ((joinDigits? (cs.takeWhile fun c => isDigit c || c = '_'))).getD []

def integer (cs : List Char) : Except Failure Int :=
  let (negative, body) := takeSign (plain cs)
  let digits := leading body
  if maxDigits < digits.length then .error (.tooLong digits.length)
  else match joinDigits? body with
    | some ds => .ok (if negative then -(ofDigits ds : Int) else ofDigits ds)
    | none => .error .unreadable

/-- The integer that a text writes, or none if it writes none. -/
def integer? (cs : List Char) : Option Int := (integer cs).toOption

/-- The floating-point number that a text writes. -/
def real? (cs : List Char) : Option Float := readFloat? (plain cs)

end SessionKeeper.Decimal.Numeral

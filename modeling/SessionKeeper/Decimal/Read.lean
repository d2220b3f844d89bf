import SessionKeeper.Decimal.Text

/-!
# Reading numbers

* `isDigit`, `ofDigits` : decimal digits.
* `floatOfScaled` : the floating-point number nearest to a decimal.
* `readInteger?` : an integer with an optional sign, a single underscore allowed between digits.
* `readDecimal?` : a decimal with optional sign, point and exponent, or the words for infinity and for
  no number.
* `readFloat?` : the same with underscores between digits.
-/

namespace SessionKeeper.Decimal

/-- Whether the character is one of the ten digits. -/
def isDigit (c : Char) : Bool := '0' ≤ c && c ≤ '9'

def ofDigits (ds : List Char) : Nat := ds.foldl (fun n c => n * 10 + (c.toNat - 48)) 0

/-- The floating-point number nearest to `digits * 10 ^ exponent`, an even mantissa on a tie; what is
beyond the largest number becomes infinity. -/
def floatOfScaled (negative : Bool) (digits : Nat) (exponent : Int) : Float :=
  let magnitude :=
    if digits = 0 then 0.0
    else
      let size := (digitCount digits : Int) + exponent
      if 310 < size then 1.0 / 0.0
      else if size < -330 then 0.0
      else Float.ofScientific digits (exponent < 0) exponent.natAbs
  if negative then -magnitude else magnitude

/-- The floating-point number nearest to an integer. -/
def floatOfInt (i : Int) : Float := floatOfScaled (i < 0) i.natAbs 0

/-- A sign in front, and what follows it. -/
def takeSign : List Char → Bool × List Char
  | '-' :: rest => (true, rest)
  | '+' :: rest => (false, rest)
  | cs => (false, cs)

/-- Digits with single underscores between them, the underscores left out. -/
def joinDigits? : List Char → Option (List Char)
  | [] => none
  | [c] => if isDigit c then some [c] else none
  | c :: '_' :: rest => if isDigit c then (joinDigits? rest).map (c :: ·) else none
  | c :: rest => if isDigit c then (joinDigits? rest).map (c :: ·) else none

def readInteger? (cs : List Char) : Option Int :=
  let (negative, body) := takeSign cs
  (joinDigits? body).map fun ds => if negative then -(ofDigits ds : Int) else ofDigits ds

/-- The text before the first character of a class, and the text after it. -/
def breakAt (p : Char → Bool) (cs : List Char) : List Char × Option (List Char) :=
  match cs.dropWhile (fun c => !p c) with
  | [] => (cs, none)
  | _ :: rest => (cs.takeWhile (fun c => !p c), some rest)

/-- Reads a decimal without its sign; `digits?` reads the digits of one side of the point and `power?`
the exponent. -/
def readMagnitudeBy? (digits? : List Char → Option (List Char)) (power? : List Char → Option Int)
    (negative : Bool) (cs : List Char) : Option Float := do
  let (body, power) := breakAt (fun c => c = 'e' || c = 'E') cs
  let (whole, part) := breakAt (· = '.') body
  let wholeDigits ← digits? whole
  let partDigits ← digits? (part.getD [])
  if wholeDigits.isEmpty && partDigits.isEmpty then none
  let e ← match power with
    | none => some 0
    | some p => power? p
  some (floatOfScaled negative (ofDigits (wholeDigits ++ partDigits)) (e - partDigits.length))

/-- Reads the words for infinity and for no number, or else by `magnitude?`. -/
def readWordOr? (magnitude? : Bool → List Char → Option Float) (cs : List Char) : Option Float :=
  let (negative, body) := takeSign cs
  let word := String.ofList (body.map Char.toLower)
  if word = "inf" || word = "infinity" then some (if negative then -1.0 / 0.0 else 1.0 / 0.0)
  else if word = "nan" then some (0.0 / 0.0)
  else magnitude? negative body

/-- Digits alone, as many as there are. -/
def plainDigits? (cs : List Char) : Option (List Char) := if cs.all isDigit then some cs else none

/-- An integer with an optional sign and nothing between its digits. -/
def readPlainInteger? (cs : List Char) : Option Int :=
  let (negative, body) := takeSign cs
  if body.isEmpty || !body.all isDigit then none
  else some (if negative then -(ofDigits body : Int) else ofDigits body)

/-- A floating-point number as text, with nothing between its digits. -/
def readDecimal? (cs : List Char) : Option Float :=
  readWordOr? (readMagnitudeBy? plainDigits? readPlainInteger?) cs

/-- The digits of one side of the point; a side may be empty. -/
def sideDigits? (cs : List Char) : Option (List Char) := if cs.isEmpty then some [] else joinDigits? cs

/-- A floating-point number as text, a single underscore allowed between digits. -/
def readFloat? (cs : List Char) : Option Float :=
  readWordOr? (readMagnitudeBy? sideDigits? readInteger?) cs

end SessionKeeper.Decimal

import SessionKeeper.Json.Value

/-!
# Printing structured values

* `Json.print` : the compact text of a value, without spaces, the fields in their order.
-/

namespace SessionKeeper

namespace Json

/-- A character between double quotes. -/
def printChar (c : Char) : List Char :=
  if c = '"' || c = '\\' then ['\\', c]
  else if c = '\n' then ['\\', 'n']
  else if c = '\r' then ['\\', 'r']
  else if c = '\t' then ['\\', 't']
  else if c = '\x08' then ['\\', 'b']
  else if c = '\x0c' then ['\\', 'f']
  else if c.toNat < 32 then '\\' :: 'u' :: Text.hexText 4 c.toNat
  else match Text.surrogate? c with
    | some half => '\\' :: 'u' :: Text.hexText 4 half
    | none => [c]

def printText (s : String) : List Char := '"' :: (s.toList.flatMap printChar ++ ['"'])

/-- A number; the values that are no numbers are written as words. -/
def printNumber : Number → List Char
  | .integer i => Decimal.integerText i
  | .real x =>
    if x.isNaN then "NaN".toList
    else if x.isInf then (if x < 0.0 then "-Infinity" else "Infinity").toList
    else Decimal.floatText x

mutual

/-- The compact text of a value. -/
def printChars : Json → List Char
  | null => "null".toList
  | bool b => (if b then "true" else "false").toList
  | number n => printNumber n
  | text s => printText s
  | list items => '[' :: (printItems items ++ [']'])
  | object fields => '\x7b' :: (printFields fields ++ ['\x7d'])

def printItems : List Json → List Char
  | [] => []
  | [x] => printChars x
  | x :: y :: rest => printChars x ++ ',' :: printItems (y :: rest)

def printFields : List (String × Json) → List Char
  | [] => []
  | [(k, v)] => printText k ++ ':' :: printChars v
  | (k, v) :: f :: rest => printText k ++ ':' :: (printChars v ++ ',' :: printFields (f :: rest))

end

/-- The compact text of a value. -/
def print (j : Json) : String := String.ofList (printChars j)

end Json

end SessionKeeper

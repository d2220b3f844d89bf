import SessionKeeper.Number
import SessionKeeper.Text.Printable
import SessionKeeper.Text.Surrogate

/-!
# Structured values

* `Json` : null, truth values, numbers, text, lists and objects; an object keeps its fields in the
  order in which they were first written.
* `Json.isFilled` : everything but null, false, zero and what is empty.
* `Json.plain` : a value as text; inside lists and objects text is quoted.
-/

namespace SessionKeeper

/-- A structured value. -/
inductive Json where
  | null
  | bool (b : Bool)
  | number (n : Number)
  | text (s : String)
  | list (items : List Json)
  | object (fields : List (String × Json))
deriving Inhabited

namespace Json

/-- The field of that name in a list of fields. -/
def lookup {α : Type} (key : String) (fields : List (String × α)) : Option α :=
  (fields.find? (·.1 == key)).map (·.2)

/-- Writes a field; a name that is there already keeps its place. -/
def put {α : Type} (fields : List (String × α)) (key : String) (value : α) : List (String × α) :=
  if fields.any (·.1 == key) then fields.map fun f => if f.1 == key then (key, value) else f
  else fields ++ [(key, value)]

/-- The field of that name, if the value is an object that has it. -/
def field? (key : String) : Json → Option Json
  | object fields => lookup key fields
  | _ => none

/-- The field of that name, null when there is none. -/
def field (key : String) (j : Json) : Json := (j.field? key).getD null

/-- Whether the value is neither null nor false nor zero nor empty. -/
def isFilled : Json → Bool
  | null => false
  | bool b => b
  | number n => !n.isZero
  | text s => !s.isEmpty
  | list items => !items.isEmpty
  | object fields => !fields.isEmpty

/-- The value itself if it is filled, else the other one. -/
def orElse (j other : Json) : Json := if j.isFilled then j else other

def kind : Json → String
  | null => "NoneType"
  | bool _ => "bool"
  | number (.integer _) => "int"
  | number (.real _) => "float"
  | text _ => "str"
  | list _ => "list"
  | object _ => "dict"

end Json

namespace Text

/-- Lower-case hexadecimal digits, with zeros in front up to a width. -/
def hexText (width n : Nat) : List Char := Decimal.padded width (Nat.toDigits 16 n)

/-- A character between quotes: the quote and the backslash are escaped, what is not printable is
written by its number. -/
def quotedChar (quote c : Char) : List Char :=
  if c = quote || c = '\\' then ['\\', c]
  else if c = '\n' then ['\\', 'n']
  else if c = '\r' then ['\\', 'r']
  else if c = '\t' then ['\\', 't']
  else if let some half := surrogate? c then '\\' :: 'u' :: hexText 4 half
  else if isPrintable c then [c]
  else if c.toNat < 0x100 then '\\' :: 'x' :: hexText 2 c.toNat
  else if c.toNat < 0x10000 then '\\' :: 'u' :: hexText 4 c.toNat
  else '\\' :: 'U' :: hexText 8 c.toNat

/-- Text between single quotes, or between double quotes when it holds a single quote and no double
one. -/
def quoted (cs : List Char) : List Char :=
  let quote := if cs.contains '\'' && !cs.contains '"' then '"' else '\''
  quote :: (cs.flatMap (quotedChar quote) ++ [quote])

end Text

namespace Json

mutual

/-- A value as it stands inside a list or an object. -/
def inner : Json → List Char
  | null => "None".toList
  | bool b => (if b then "True" else "False").toList
  | number n => n.text
  | text s => Text.quoted s.toList
  | list items => '[' :: (innerItems items ++ [']'])
  | object fields => '\x7b' :: (innerFields fields ++ ['\x7d'])

/-- The items of a list, a comma and a space between them. -/
def innerItems : List Json → List Char
  | [] => []
  | [x] => inner x
  | x :: y :: rest => inner x ++ ',' :: ' ' :: innerItems (y :: rest)

/-- The fields of an object, a comma and a space between them. -/
def innerFields : List (String × Json) → List Char
  | [] => []
  | [(k, v)] => Text.quoted k.toList ++ ':' :: ' ' :: inner v
  | (k, v) :: f :: rest =>
    Text.quoted k.toList ++ ':' :: ' ' :: (inner v ++ ',' :: ' ' :: innerFields (f :: rest))

end

/-- A value as text; text stands for itself. -/
def plain : Json → String
  | text s => s
  | j => String.ofList (inner j)

end Json

end SessionKeeper

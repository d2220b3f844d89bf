import SessionKeeper.Fault
import SessionKeeper.Text.Blank
import SessionKeeper.Text.Casing
import SessionKeeper.Text.Charset
import SessionKeeper.Text.Pieces
import SessionKeeper.Url.Escape

/-!
# Content types

A content type is a row of parameters with semicolons between them. The value of one parameter may be
spread over several numbered ones; a starred one holds escaped octets behind the name of their
character set.

* `ContentType.pieces` : the pieces between the semicolons that stand outside quotes.
* `ContentType.Segment`, `ContentType.segment?` : a part of the value of a parameter.
* `ContentType.charsetName` : the name of the character set that a content type gives.
* `ContentType.charset` : that set, if it is a known one.
-/

namespace SessionKeeper.ContentType

open Text

/-! ## Pieces -/

/-- A text between semicolons on its way: the pieces before it and its own characters, both in reverse,
and whether it stands in quotes. -/
structure Draft where
  done : List (List Char)
  piece : List Char
  inQuotes : Bool

/-- Takes one character more. A quote after a backslash does not count. -/
def Draft.take (d : Draft) (c : Char) : Draft :=
  if c = ';' && !d.inQuotes then ⟨d.piece.reverse :: d.done, [], false⟩
  else
    let turns := c = '"' && d.piece.head? ≠ some '\\'
    { d with piece := c :: d.piece, inQuotes := if turns then !d.inQuotes else d.inQuotes }

/-- The pieces of a text between the semicolons that stand outside quotes. -/
def pieces (cs : List Char) : List (List Char) :=
  let d := cs.foldl Draft.take ⟨[], [], false⟩
  (d.piece.reverse :: d.done).reverse

/-! ## Parameters -/

/-- A name and a value, without white space around them. -/
abbrev Param := List Char × List Char

/-- The parameter of a piece; without an equals sign the value is empty. -/
def param (piece : List Char) : Param :=
  match Decimal.breakAt (· = '=') piece with
  | (name, some value) => (lowerChars (trimBy isBlank name), trimBy isBlank value)
  | (name, none) => (trimBy isBlank name, [])

/-- A text in quotes with a backslash before some characters: the characters alone. -/
def unescaped : List Char → List Char
  | '\\' :: '\\' :: rest => '\\' :: unescaped rest
  | '\\' :: '"' :: rest => '"' :: unescaped rest
  | c :: rest => c :: unescaped rest
  | [] => []

/-- Whether the text stands between two characters. -/
def isBetween (opening closing : Char) (cs : List Char) : Bool :=
  1 < cs.length && cs.head? = some opening && cs.getLast? = some closing

/-- A value without the quotes or angle brackets around it. -/
def unquoted (cs : List Char) : List Char :=
  if isBetween '"' '"' cs then unescaped (cs.drop 1).dropLast
  else if isBetween '<' '>' cs then (cs.drop 1).dropLast
  else cs

/-! ## Values in segments -/

/-- A part of the value of a parameter: its number, if it has one, and whether it holds escapes. -/
structure Segment where
  name : List Char
  number : Option Nat
  value : List Char
  escaped : Bool

/-- Whether the character may stand in the name of a parameter in segments. -/
def isNameChar (c : Char) : Bool := c.isAlphanum || c = '_'

/-- The segment that a parameter is: its name goes on with a star, a number, and perhaps another star,
or with one star alone. -/
def segment? (p : Param) : Option Segment :=
  let name := p.1.takeWhile isNameChar
  match p.1.dropWhile isNameChar with
  | '*' :: rest =>
    let digits := rest.takeWhile Decimal.isDigit
    let ending := rest.dropWhile Decimal.isDigit
    if name.isEmpty then none
    else if rest.isEmpty then some ⟨name, none, unquoted p.2, true⟩
    else if !digits.isEmpty && (ending = [] || ending = ['*']) then
      some ⟨name, some (Decimal.ofDigits digits), unquoted p.2, ending = ['*']⟩
    else none
  | _ => none

/-- The order of words in a dictionary, for numbers. -/
def notAfter : List Nat → List Nat → Bool
  | [], _ => true
  | _ :: _, [] => false
  | m :: ms, n :: ns => m < n || (m == n && notAfter ms ns)

/-- The order of segments: by number, then by value; of two equal ones the escaped one comes last. -/
def Segment.atMost (a b : Segment) : Bool :=
  let key (s : Segment) : List Nat := s.number.getD 0 :: s.value.map Char.toNat
  if key a == key b then !a.escaped || b.escaped else notAfter (key a) (key b)

/-- A text with a character in the place of each escape; a character that no octet stands for stays. -/
def unescapedCodes : List Char → List Char
  | '%' :: a :: b :: rest =>
    if Url.isHex a && Url.isHex b then
      Char.ofNat (Url.hexDigitValue a * 16 + Url.hexDigitValue b) :: unescapedCodes rest
    else '%' :: unescapedCodes (a :: b :: rest)
  | c :: rest => c :: unescapedCodes rest
  | [] => []

def Segment.text (s : Segment) : List Char := if s.escaped then unescapedCodes s.value else s.value

/-- The value in octets behind the name of a character set and that of a language, each with a tick
after it. -/
def octetsValue (cs : List Char) : List Char × List Char :=
  match splitBy (· = '\'') cs with
  | charset :: _ :: v :: rest => (charset, ['\''].intercalate (v :: rest))
  | _ => ([], cs)

/-- The set of a value that names none. -/
def plainName : List Char := "us-ascii".toList

/-- The octets that a character stands for: its own, or those of an escape for it. -/
def octetsOf (c : Char) : List UInt8 :=
  let n := c.toNat
  if n < 256 then [n.toUInt8]
  else
    let escape := if n < 0x10000 then '\\' :: 'u' :: hexText 4 n else '\\' :: 'U' :: hexText 8 n
    escape.map fun d => d.toNat.toUInt8

/-- A value whose characters stand for octets of a set; the value as it is where that is no text. -/
def decoded (name value : List Char) : List Char :=
  let octets := value.flatMap octetsOf
  match Charset.ofName? (if name.isEmpty then plainName else name) with
  | none => value
  | some set =>
    match set.decode octets with
    | .ok cs => if cs.contains replacement then value else cs
    | .error _ => value

def joined (segments : List Segment) : List Char :=
  let text := (segments.mergeSort Segment.atMost).flatMap Segment.text
  if segments.any (·.escaped) then
    let (name, value) := octetsValue text
    decoded name value
  else text

/-- The value of the first name, among those that are equal but for case, that has segments. A segment
without a number does not go with others that have one. -/
def segmented (name : List Char) (segments : List Segment) : Except Fault (Option (List Char)) :=
  let group (s : Segment) : List Segment := segments.filter (·.name = s.name)
  if segments.any fun s => (group s).any fun t => s.number.isNone != t.number.isNone then
    .error .wrongKind
  else .ok ((segments.find? (·.name.map Char.toLower = name)).map fun s => joined (group s))

/-! ## Character sets -/

/-- The name of the parameter for the character set. -/
def charsetKey : List Char := "charset".toList

/-- Whether the parameter gives the character set in one piece. -/
def isCharset (p : Param) : Bool := p.1.map Char.toLower = charsetKey

/-- The name of the character set that a content type gives. The first parameter is never a segment; a
value in one piece comes before one in segments. -/
def charsetName (cs : List Char) : Except Fault (Option (List Char)) := do
  let params := (pieces cs).map param
  let whole := params.take 1 ++ (params.drop 1).filter fun p => (segment? p).isNone
  let spread ← segmented charsetKey ((params.drop 1).filterMap segment?)
  let name := ((whole.find? isCharset).map fun p => unquoted p.2).or spread
  return (name.filter fun n => n.all (·.toNat < 128)).map fun n => n.map Char.toLower

/-- The character set that a content type gives, if it is a known one. -/
def charset (cs : List Char) : Except Fault (Option Charset) := do
  return (← charsetName cs).bind Charset.ofName?

end SessionKeeper.ContentType

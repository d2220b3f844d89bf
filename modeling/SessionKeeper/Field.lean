import SessionKeeper.Fault
import SessionKeeper.Moment
import SessionKeeper.Text.Blank
import SessionKeeper.Text.Casing

/-!
# Reading the fields of an input

Fields are read with tolerance: a truth value may be written as a word, a number as text.

* `Checked` : a value, or every issue of an input in the order of its fields.
* `Field.text`, `Field.flag`, `Field.integer`, `Field.real`, `Field.moment`, `Field.texts` : one value.
* `Named.required`, `Named.optional` : a field of an object under either of its two names.
* `KeyStyle` : the two ways to write names of fields.
-/

namespace SessionKeeper

/-- A value, or what is wrong with the input. -/
inductive Checked (α : Type) where
  | ok (a : α)
  | bad (issues : List Issue)

namespace Checked

/-- Applies a function to the value. -/
def map {α β : Type} (f : α → β) : Checked α → Checked β
  | ok a => ok (f a)
  | bad is => bad is

/-- Applies a function that was itself checked; the issues of both are kept, its own first. -/
def seq {α β : Type} : Checked (α → β) → Checked α → Checked β
  | ok f, ok a => ok (f a)
  | ok _, bad is => bad is
  | bad is, ok _ => bad is
  | bad is, bad js => bad (is ++ js)

instance : Applicative Checked where
  pure := ok
  seq f x := seq f (x ())
  map := map

/-- The value, or an error made of the issues. -/
def toExcept {α ε : Type} (f : List Issue → ε) : Checked α → Except ε α
  | ok a => .ok a
  | bad is => .error (f is)

/-- The issues one step further out. -/
def under {α : Type} (p : Place) : Checked α → Checked α
  | ok a => ok a
  | bad is => bad (is.map (Issue.under p))

def problem {α : Type} (p : Problem) : Checked α := bad [⟨[], p⟩]

end Checked

namespace Field

open Text Decimal

def text : Json → Checked String
  | .text s => .ok s
  | _ => .problem .notText

def orNull {α : Type} (read : Json → Checked α) : Json → Checked (Option α)
  | .null => .ok none
  | j => (read j).map some

/-- Reads a text as something else; a text with half a pair of surrogates is not even a text. -/
def ofText {α : Type} (read : String → Checked α) (s : String) : Checked α :=
  if s.toList.any isLoneHalf then .problem .illFormed else read s

def flagWord? (s : String) : Option Bool :=
  match String.ofList (s.toList.map Char.toLower) with
  | "1" | "on" | "t" | "true" | "y" | "yes" => some true
  | "0" | "off" | "f" | "false" | "n" | "no" => some false
  | _ => none

/-- Whether an integer fits into 64 bits with a sign. -/
def fitsWord (i : Int) : Bool := -twoTo 63 ≤ i && i < twoTo 63

/-- The integer that a floating-point number is, if it has no fraction and fits into 64 bits. -/
def integerOfReal (x : Float) : Checked Int :=
  if x.isNaN || x.isInf then .problem .endless
  else
    let (n, d) := Number.fraction x
    if n % d ≠ 0 then .problem .fractional
    else if (n / d).natAbs < twoTo 63 then .ok (n / d)
    else .problem .tooLong

/-- The truth value that an integer stands for; one that is neither 0 nor 1 is no truth value, and one
beyond 64 bits is not even taken for a number. -/
def flagOfInteger (i : Int) : Checked Bool :=
  if i = 0 then .ok false
  else if i = 1 then .ok true
  else if fitsWord i then .problem .unreadableFlag
  else .problem .notFlag

/-- The truth value that a text writes. -/
def flagOfText (s : String) : Checked Bool :=
  match flagWord? s with
  | some b => .ok b
  | none => .problem .unreadableFlag

/-- A truth value: one of the two, one or zero, or a word for it. -/
def flag : Json → Checked Bool
  | .bool b => .ok b
  | .number (.integer i) => flagOfInteger i
  | .number (.real x) =>
    match integerOfReal x with
    | .ok i => flagOfInteger i
    | .bad _ => .problem .notFlag
  | .text s => ofText flagOfText s
  | _ => .problem .notFlag

/-- The greatest number of characters of an integer in a text, its sign among them. -/
def maxDigits : Nat := 4300

/-- Why a text is no integer. -/
inductive NumeralFailure where
  | unreadable
  | tooLong
deriving DecidableEq

/-- An integer in its plainest form: no plus sign, no zero in front of other digits. -/
def plainInteger (cs : List Char) : Except NumeralFailure Int :=
  let (negative, body) := match cs with
    | '-' :: rest => (true, rest)
    | _ => (false, cs)
  let digits := body.takeWhile isDigit
  match digits with
  | [] => .error .unreadable
  | ['0'] => if body = ['0'] then .ok 0 else .error .unreadable
  | '0' :: _ => .error .unreadable
  | _ =>
    if maxDigits < digits.length + (if negative then 1 else 0) then .error .tooLong
    else if digits.length ≠ body.length then .error .unreadable
    else .ok (if negative then -(ofDigits digits : Int) else ofDigits digits)

/-- What follows the zeros and underscores in front of a number; `last` is the character before `cs`.
Of nothing but zeros and underscores the last one stays, and so does the one before a point. -/
def afterZeros? (last : Char) : List Char → Option (List Char)
  | [] => some [last]
  | c :: rest =>
    if c = '0' || c = '_' then afterZeros? c rest
    else if isDigit c || c = '-' then some (c :: rest)
    else if c = '.' then some (last :: c :: rest)
    else none

def withoutZeros? : List Char → Option (List Char)
  | [] => none
  | c :: rest =>
    if c = '0' then afterZeros? c rest
    else if isDigit c || c = '-' then some (c :: rest)
    else none

/-- Digits without the point and the zeros that may follow them. -/
def withoutZeroPart (cs : List Char) : List Char :=
  match breakAt (· = '.') cs with
  | (whole, some zeros) => if !zeros.isEmpty && zeros.all (· = '0') then whole else cs
  | (_, none) => cs

/-- Whether two underscores stand side by side. -/
def hasDoubleUnderscore : List Char → Bool
  | a :: b :: rest => (a = '_' && b = '_') || hasDoubleUnderscore (b :: rest)
  | _ => false

/-- Whether underscores stand only between other characters, and no two side by side. -/
def spacesDigits (cs : List Char) : Bool :=
  cs.head? ≠ some '_' && cs.getLast? ≠ some '_' && !hasDoubleUnderscore cs

/-- The text without the underscores between its characters; any other text is kept. -/
def withoutUnderscores (cs : List Char) : List Char :=
  if spacesDigits cs then cs.filter (· ≠ '_') else cs

/-- The plainest form of an integer that was written with white space around it, a plus sign, zeros in
front, underscores, or a fraction of zeros. -/
def plainForm? (cs : List Char) : Option (List Char) := do
  let body ← match trimBy isSpacing cs with
    | '+' :: '-' :: _ => none
    | '+' :: rest => some rest
    | rest => some rest
  let short ← withoutZeros? body
  some (withoutUnderscores (withoutZeroPart short))

/-- The integer that a text writes, as it stands or in its plainest form. -/
def readIntegerText (cs : List Char) : Except NumeralFailure Int :=
  match plainInteger cs with
  | .error .unreadable =>
    match plainForm? cs with
    | some plain => plainInteger plain
    | none => .error .unreadable
  | result => result

def integerOfText (s : String) : Checked Int :=
  match readIntegerText s.toList with
  | .ok i => .ok i
  | .error .unreadable => .problem .unreadableInteger
  | .error .tooLong => .problem .tooLong

/-- The floating-point number that a text writes: a decimal with white space around it, or one with
underscores between its characters. -/
def readRealText? (cs : List Char) : Option Float :=
  match readDecimal? (trimBy isSpacing cs) with
  | some x => some x
  | none => readDecimal? (withoutUnderscores cs)

def realOfText (s : String) : Checked Float :=
  match readRealText? s.toList with
  | some x => .ok x
  | none => .problem .unreadableReal

/-- An integer: a whole number, a truth value, or text that writes one. -/
def integer : Json → Checked Int
  | .bool b => .ok (if b then 1 else 0)
  | .number (.integer i) => .ok i
  | .number (.real x) => integerOfReal x
  | .text s => ofText integerOfText s
  | _ => .problem .notInteger

/-- Whether an integer lies beyond every floating-point number. -/
def isBeyondReal (i : Int) : Bool := (floatOfInt i).isInf

/-- A floating-point number: any number, a truth value, or text that writes one. -/
def real : Json → Checked Float
  | .bool b => .ok (if b then 1.0 else 0.0)
  | .number (.real x) => .ok x
  | .number (.integer i) => if isBeyondReal i then .problem .notReal else .ok (floatOfInt i)
  | .text s => ofText realOfText s
  | _ => .problem .notReal

def momentProblem : Moment.Failure → Problem
  | .unreadable => .unreadableMoment
  | .outOfRange => .momentOutOfRange

/-- The moment, or the problem of a failed reading. -/
def ofMoment : Except Moment.Failure Moment → Checked Moment
  | .ok m => .ok m
  | .error f => .problem (momentProblem f)

/-- A moment: text, or a number of seconds or milliseconds since 1970. -/
def moment : Json → Checked Moment
  | .text s => ofText (fun s => ofMoment (Moment.read s.toList)) s
  | .number (.integer i) =>
    if isBeyondReal i then .problem .notMoment else ofMoment (Moment.ofNumber (Moment.ofTimestamp? i))
  | .number (.real x) => ofMoment (Moment.ofNumber (Moment.ofReal? x))
  | _ => .problem .notMoment

/-- Reads the items of a list, counted from `i` on. -/
def itemsFrom {α β : Type} (read : β → Checked α) (i : Nat) : List β → Checked (List α)
  | [] => .ok []
  | x :: rest => .seq (((read x).under (.index i)).map List.cons) (itemsFrom read (i + 1) rest)

def texts : Json → Checked (List String)
  | .list items => itemsFrom text 0 items
  | _ => .problem .notList

end Field

/-! ## Objects -/

/-- Values by their names. -/
abbrev Named (β : Type) := List (String × β)

/-- The fields of an object. -/
abbrev Fields := Named Json

namespace Named

variable {α β : Type}

/-- The value under the first of the names that is present, with that name. -/
def find (fields : Named β) : List String → Option (String × β)
  | [] => none
  | name :: rest =>
    match Json.lookup name fields with
    | some j => some (name, j)
    | none => find fields rest

/-- A field that may be missing; `names` are its names in order of precedence. -/
def optional (fields : Named β) (names : List String) (default : α)
    (read : β → Checked α) : Checked α :=
  match fields.find names with
  | some (name, j) => (read j).under (.name name)
  | none => .ok default

def required (fields : Named β) (names : List String) (read : β → Checked α) : Checked α :=
  match fields.find names with
  | some (name, j) => (read j).under (.name name)
  | none => .bad [⟨[.name (names.headD "")], .missing⟩]

end Named

def Json.checkFields {α : Type} (read : Fields → Checked α) : Json → Checked α
  | .object fields => read fields
  | _ => .problem .notObject

/-! ## Writing -/

/-- How names of several words are written. -/
inductive KeyStyle where
  | camel
  | snake
deriving DecidableEq

def KeyStyle.pick (s : KeyStyle) (camel snake : String) : String :=
  match s with
  | .camel => camel
  | .snake => snake

namespace Json

/-- A value that may be missing. -/
def orNull {α : Type} (f : α → Json) : Option α → Json
  | some a => f a
  | none => null

def ofInt (i : Int) : Json := number (.integer i)

def ofMoment (m : Moment) : Json := text m.text

end Json

end SessionKeeper

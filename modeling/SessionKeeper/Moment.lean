import SessionKeeper.Decimal.Read

/-!
# Moments

* `Moment` : a date and a time of day to the microsecond, with an optional distance from universal
  time.
* `Moment.text` : year to second with a `T` in the middle, the microseconds if there are any, the
  distance if there is one.
* `Moment.ofSeconds?` : the moment at a number of seconds since 1970.
* `Moment.ofTimestamp?`, `Moment.ofReal?` : the moment at a number of seconds or milliseconds.
* `Moment.read` : a moment written as text or given by a number.
-/

namespace SessionKeeper

/-- A date and a time of day; `offset` is in minutes. -/
structure Moment where
  year : Nat
  month : Nat
  day : Nat
  hour : Nat
  minute : Nat
  second : Nat
  micro : Nat
  offset : Option Int
deriving DecidableEq, Inhabited

namespace Moment

open Decimal

/-! ## Calendar -/

def isLeap (year : Nat) : Bool := year % 4 = 0 && (year % 100 ≠ 0 || year % 400 = 0)

def daysIn (year month : Nat) : Nat :=
  match month with
  | 2 => if isLeap year then 29 else 28
  | 4 | 6 | 9 | 11 => 30
  | _ => 31

/-- Year, month and day at a number of days after the first of March 400 years before the year 0. -/
def ofDays (n : Nat) : Nat × Nat × Nat :=
  let era := n / 146097
  let inEra := n % 146097
  let yearOfEra := (inEra - inEra / 1460 + inEra / 36524 - inEra / 146096) / 365
  let dayOfYear := inEra - (365 * yearOfEra + yearOfEra / 4 - yearOfEra / 100)
  let shifted := (5 * dayOfYear + 2) / 153
  let month := if shifted < 10 then shifted + 3 else shifted - 9
  let year := yearOfEra + era * 400 + (if month ≤ 2 then 1 else 0)
  (year - 400, month, dayOfYear - (153 * shifted + 2) / 5 + 1)

/-- The days from the first of March 400 years before the year 0 to the first of January 1970. -/
def daysTo1970 : Nat := 865565

/-- The first second of the year 0, counted from 1970. -/
def leastSecond : Int := -62167219200

def greatestSecond : Int := 253402300799

/-- The moment at a number of seconds and microseconds since 1970, in universal time; whole seconds
among the microseconds are carried. -/
def ofSeconds? (seconds : Int) (micro : Nat) : Option Moment :=
  let total := seconds + (micro / 1000000 : Nat)
  if total < leastSecond || greatestSecond < total then none
  else
    let days := (total.fdiv 86400 + daysTo1970).toNat
    let rest := (total.fmod 86400).toNat
    let (year, month, day) := ofDays days
    some ⟨year, month, day, rest / 3600, rest / 60 % 60, rest % 60, micro % 1000000, some 0⟩

/-! ## Text -/

/-- A number in a fixed number of digits. -/
def fixed (width n : Nat) : List Char := padded width (naturalText n)

/-- The distance from universal time. -/
def offsetText (minutes : Int) : List Char :=
  (if minutes < 0 then '-' else '+') ::
    (fixed 2 (minutes.natAbs / 60) ++ ':' :: fixed 2 (minutes.natAbs % 60))

def chars (m : Moment) : List Char :=
  fixed 4 m.year ++ '-' :: fixed 2 m.month ++ '-' :: fixed 2 m.day ++ 'T' :: fixed 2 m.hour ++
    ':' :: fixed 2 m.minute ++ ':' :: fixed 2 m.second ++
    (if m.micro = 0 then [] else '.' :: fixed 6 m.micro) ++
    (match m.offset with
    | none => []
    | some o => offsetText o)

def text (m : Moment) : String := String.ofList m.chars

/-! ## Reading -/

def twoDigits? : List Char → Option (Nat × List Char)
  | a :: b :: rest => if isDigit a && isDigit b then some (ofDigits [a, b], rest) else none
  | _ => none

def date? (cs : List Char) : Option ((Nat × Nat × Nat) × List Char) :=
  match cs with
  | a :: b :: c :: d :: '-' :: e :: f :: '-' :: g :: h :: rest =>
    if [a, b, c, d, e, f, g, h].all isDigit then
      let year := ofDigits [a, b, c, d]
      let month := ofDigits [e, f]
      let day := ofDigits [g, h]
      if 1 ≤ month && month ≤ 12 && 1 ≤ day && day ≤ daysIn year month then
        some ((year, month, day), rest)
      else none
    else none
  | _ => none

/-- The distance from universal time at the end of a text. -/
def offset? (cs : List Char) : Option (Option Int) :=
  let hoursAndMinutes (negative : Bool) (rest : List Char) : Option (Option Int) := do
    let (h, rest) ← twoDigits? rest
    let (m, rest) ← twoDigits? (match rest with
      | ':' :: more => more
      | _ => rest)
    if rest.isEmpty && h < 24 && m < 60 then
      let total : Int := h * 60 + m
      some (some (if negative then -total else total))
    else none
  match cs with
  | [] => some none
  | ['Z'] | ['z'] => some (some 0)
  | '+' :: rest => hoursAndMinutes false rest
  | '-' :: rest => hoursAndMinutes true rest
  | '−' :: rest => hoursAndMinutes true rest
  | _ => none

/-- Seconds and their fraction in front of a text; both may be missing. -/
def seconds? (cs : List Char) : Option ((Nat × Nat) × List Char) :=
  match cs with
  | ':' :: rest => do
    let (s, rest) ← twoDigits? rest
    if 60 ≤ s then none
    else
      let fraction (tail : List Char) : Option ((Nat × Nat) × List Char) :=
        let ds := tail.takeWhile isDigit
        if ds.isEmpty then none
        else
          let six := ds.take 6
          some ((s, ofDigits (six ++ List.replicate (6 - six.length) '0')), tail.dropWhile isDigit)
      match rest with
      | '.' :: tail => fraction tail
      | ',' :: tail => fraction tail
      | _ => some ((s, 0), rest)
  | _ => some ((0, 0), cs)

def dateTime? (cs : List Char) : Option Moment := do
  let ((year, month, day), rest) ← date? cs
  match rest with
  | sep :: rest =>
    if sep = 'T' || sep = 't' || sep = ' ' || sep = '_' then
      let (hour, rest) ← twoDigits? rest
      match rest with
      | ':' :: rest =>
        let (minute, rest) ← twoDigits? rest
        let ((second, micro), rest) ← seconds? rest
        let offset ← offset? rest
        if hour < 24 && minute < 60 then
          some ⟨year, month, day, hour, minute, second, micro, offset⟩
        else none
      | _ => none
    else none
  | [] => none

/-- A date alone, which means its midnight. -/
def midnight? (cs : List Char) : Option Moment :=
  match date? cs with
  | some ((year, month, day), []) => some ⟨year, month, day, 0, 0, 0, 0, none⟩
  | _ => none

/-- Why a moment cannot be read. -/
inductive Failure where
  | unreadable
  | outOfRange
deriving DecidableEq

def inRange (m : Moment) : Except Failure Moment :=
  if m.year = 0 then .error .outOfRange else .ok m

/-- Numbers up to this size count seconds, larger ones milliseconds. -/
def greatestInSeconds : Nat := 20000000000

/-- The moment at a number of milliseconds since 1970, with microseconds on top. -/
def ofMilliseconds? (n : Int) (micro : Nat) : Option Moment :=
  ofSeconds? (n.fdiv 1000) ((n.fmod 1000).toNat * 1000 + micro)

/-- The moment at a whole number since 1970. -/
def ofTimestamp? (n : Int) : Option Moment :=
  if n.natAbs ≤ greatestInSeconds then ofSeconds? n 0 else ofMilliseconds? n 0

/-- The whole number below a floating-point number, kept within 64 bits. -/
def floorInt (x : Float) : Int := x.floor.toInt64.toInt

/-- The distance of a floating-point number from the whole number below it, in parts of which `scale`
make up one, to the nearest. -/
def partAbove (x scale : Float) : Nat := ((x - x.floor) * scale).round.toUInt64.toNat

/-- The moment at a floating-point number since 1970, to the nearest microsecond. -/
def ofReal? (x : Float) : Option Moment :=
  if x.isNaN then none
  else if x.abs ≤ greatestInSeconds.toFloat then ofSeconds? (floorInt x) (partAbove x 1000000.0)
  else ofMilliseconds? (floorInt x) (partAbove x 1000.0)

/-- A moment with a year from 1 on, for a number that was given as such. -/
def ofNumber : Option Moment → Except Failure Moment
  | some m => inRange m
  | none => .error .outOfRange

/-- A moment with a year from 1 on, for a number that was written as text. -/
def ofWritten : Option Moment → Except Failure Moment
  | some m => inRange m
  | none => .error .unreadable

/-- The greatest number of a timestamp that is read from digits. -/
def greatestDigits : Nat := 9223372036854775807

/-- The moment at a number in a text: digits with an optional sign; from the first point on whatever
follows makes it a decimal. -/
def ofNumeral (cs : List Char) : Except Failure Moment :=
  let (negative, body) := takeSign cs
  let digits := body.takeWhile isDigit
  let n : Int := if negative then -(ofDigits digits : Int) else ofDigits digits
  if greatestDigits < ofDigits digits then .error .unreadable
  else match body.dropWhile isDigit with
    | [] => if digits.isEmpty then .error .unreadable else ofWritten (ofTimestamp? n)
    | '.' :: _ =>
      match readDecimal? cs with
      | some x => ofWritten (ofReal? x)
      | none => .error .unreadable
    | _ => .error .unreadable

/-- The moment that a text writes: a date and a time, a number, or a date alone. -/
def read (cs : List Char) : Except Failure Moment :=
  match dateTime? cs with
  | some m => inRange m
  | none =>
    match midnight? cs with
    | some m => inRange m
    | none => ofNumeral cs

end Moment

end SessionKeeper

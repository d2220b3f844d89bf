import SessionKeeper.Fault
import SessionKeeper.Moment
import SessionKeeper.Yaml.Cursor

/-!
# Dates and times

* `Stamp` : the parts of a date, with a time of day and a zone where they are given.
* `Stamp.read?` : the parts of a text.
* `Stamp.same` : whether two dates are the same.
* `Stamp.check` : whether there is such a day and such a time.
-/

namespace SessionKeeper.Yaml

/-- A zone: the universal one, or a distance from it. -/
inductive Stamp.Zone where
  | universal
  | offset (isWest : Bool) (hours minutes : Nat)
deriving DecidableEq

/-- A time of day to the microsecond. -/
structure Stamp.Clock where
  hour : Nat
  minute : Nat
  second : Nat
  micro : Nat
  zone : Option Stamp.Zone
deriving DecidableEq

/-- The parts of a date, and how its month and day are written. -/
structure Stamp where
  year : Nat
  month : Nat
  day : Nat
  /-- Whether month and day have two digits. -/
  isPadded : Bool
  clock : Option Stamp.Clock
deriving DecidableEq

namespace Stamp

/-! ## Reading -/

/-- A number of `least` to `most` digits, and the text after it; how many digits it had comes first. -/
def number? (least most : Nat) (cs : List Char) : Option (Nat × Nat × List Char) :=
  let ds := (cs.take most).takeWhile Char.isDigit
  if ds.length < least then none else some (ds.length, Decimal.ofDigits ds, cs.drop ds.length)

def after? (c : Char) : List Char → Option (List Char)
  | d :: rest => if c = d then some rest else none
  | [] => none

/-- The zone that makes up the text. -/
def zone? (cs : List Char) : Option Zone :=
  match cs with
  | ['Z'] => some .universal
  | s :: rest => do
    if s ≠ '+' && s ≠ '-' then none
    let (_, hours, rest) ← number? 1 2 rest
    if rest.isEmpty then return .offset (s = '-') hours 0
    let (_, minutes, rest) ← number? 2 2 (← after? ':' rest)
    if rest.isEmpty then return .offset (s = '-') hours minutes else none
  | [] => none

/-- The microseconds that a point and digits at the beginning of a text write, and the text after
them; digits after the sixth do not count. -/
def micros : List Char → Nat × List Char
  | '.' :: rest =>
    let ds := (rest.takeWhile Char.isDigit).take 6
    (Decimal.ofDigits (ds ++ List.replicate (6 - ds.length) '0'), rest.dropWhile Char.isDigit)
  | cs => (0, cs)

def isSpaceOrTab (c : Char) : Bool := c = ' ' || c = '\t'

/-- The time of day that makes up the text. -/
def clock? (cs : List Char) : Option Clock := do
  let (_, hour, cs) ← number? 1 2 cs
  let (_, minute, cs) ← number? 2 2 (← after? ':' cs)
  let (_, second, cs) ← number? 2 2 (← after? ':' cs)
  let (micro, cs) := micros cs
  if cs.isEmpty then return ⟨hour, minute, second, micro, none⟩
  let zone ← zone? (cs.dropWhile isSpaceOrTab)
  return ⟨hour, minute, second, micro, some zone⟩

/-- The text after what separates date and time. -/
def afterDate? : List Char → Option (List Char)
  | 'T' :: rest => some rest
  | 't' :: rest => some rest
  | c :: rest => if isSpaceOrTab c then some (rest.dropWhile isSpaceOrTab) else none
  | [] => none

/-- The parts of a text. -/
def read? (cs : List Char) : Option Stamp := do
  let (_, year, cs) ← number? 4 4 cs
  let (m, month, cs) ← number? 1 2 (← after? '-' cs)
  let (d, day, cs) ← number? 1 2 (← after? '-' cs)
  let padded := m == 2 && d == 2
  if cs.isEmpty then return ⟨year, month, day, padded, none⟩
  let clock ← clock? (← afterDate? cs)
  return ⟨year, month, day, padded, some clock⟩

/-- Whether the text shows by its form that it is a date: without a time of day only a padded one does. -/
def isPlain (s : Stamp) : Bool := s.isPadded || s.clock.isSome

/-! ## Days and times that there are -/

/-- A fault with a wording unless a condition holds. -/
def demand (condition : Bool) (message : String) : Except Fault Unit :=
  if condition then .ok () else .error (.badValue message none)

def checkDay (s : Stamp) : Except Fault Unit := do
  demand (1 ≤ s.year) ("year " ++ String.ofList (Decimal.naturalText s.year) ++ " is out of range")
  demand (1 ≤ s.month && s.month ≤ 12) "month must be in 1..12"
  demand (1 ≤ s.day && s.day ≤ Moment.daysIn s.year s.month) "day is out of range for month"

/-- The distance of a zone from the universal one, in minutes. -/
def Zone.distance : Zone → Int
  | .universal => 0
  | .offset isWest hours minutes =>
    let distance : Int := (hours * 60 + minutes : Nat)
    if isWest then -distance else distance

/-- Whether two dates are the same, however they are written. -/
def same (s t : Stamp) : Bool :=
  let parts (s : Stamp) := (s.year, s.month, s.day, s.clock.map fun c =>
    (c.hour, c.minute, c.second, c.micro, c.zone.map Zone.distance))
  parts s == parts t

def spanText (seconds : Int) : String :=
  let item (name : String) (n : Int) : List String :=
    if n = 0 then [] else [name ++ "=" ++ String.ofList (Decimal.integerText n)]
  let items := item "days" (seconds.fdiv 86400) ++ item "seconds" (seconds.fmod 86400)
  "datetime.timedelta(" ++ (if items.isEmpty then "0" else ", ".intercalate items) ++ ")"

/-- The wording for a zone that lies too far away. -/
def zoneMessage (seconds : Int) : String :=
  "offset must be a timedelta strictly between -timedelta(hours=24) and timedelta(hours=24), not " ++
    spanText seconds ++ "."

/-- Whether the zone is less than a day away. -/
def checkZone : Option Zone → Except Fault Unit
  | some zone => demand (zone.distance.natAbs < 1440) (zoneMessage (zone.distance * 60))
  | none => .ok ()

/-- Whether there is such a time of day. -/
def checkClock (c : Clock) : Except Fault Unit := do
  demand (c.hour < 24) "hour must be in 0..23"
  demand (c.minute < 60) "minute must be in 0..59"
  demand (c.second < 60) "second must be in 0..59"

/-- Whether there is such a day, and such a time if one is given. -/
def check (s : Stamp) : Except Fault Unit :=
  match s.clock with
  | none => s.checkDay
  | some c => do
    checkZone c.zone
    s.checkDay
    checkClock c

end Stamp

end SessionKeeper.Yaml

import SessionKeeper.Text.Utf8

/-!
# Text in octets of seven bits

Plain characters stand for themselves; a plus sign opens a stretch in which each character carries six
bits of units of two octets, and a character that carries none closes it.

* `Seven.decode` : octets to text, a gap for each stretch that is not well formed.
-/

namespace SessionKeeper.Text.Seven

/-- Where the reader stands: among plain characters, right after a plus sign, or in a stretch with
`count` bits left over and perhaps the first half of a pair. -/
inductive State where
  | plain
  | opened
  | stretch (count bits : Nat) (high : Option Nat)

/-- The six bits of a character. -/
def sextet? (b : Nat) : Option Nat :=
  if 65 ≤ b && b ≤ 90 then some (b - 65)
  else if 97 ≤ b && b ≤ 122 then some (b - 71)
  else if 48 ≤ b && b ≤ 57 then some (b + 4)
  else if b = 43 then some 62
  else if b = 47 then some 63
  else none

def plainStep (b : Nat) : List (Option Char) × State :=
  if b = 43 then ([], .opened)
  else if b < 128 then ([some (Char.ofNat b)], .plain)
  else ([none], .plain)

/-- A unit of two octets after a first half, or after none. -/
def unitStep (high : Option Nat) (unit : Nat) : List (Option Char) × Option Nat :=
  match high with
  | some h =>
    if isLow unit then ([some (pair h unit)], none)
    else if isHigh unit then ([some (ofSurrogate h)], some unit)
    else ([some (ofSurrogate h), some (ofCode unit)], none)
  | none => if isHigh unit then ([], some unit) else ([some (ofCode unit)], none)

def bitsStep (count bits : Nat) (high : Option Nat) (n : Nat) : List (Option Char) × State :=
  let count := count + 6
  let bits := bits * 64 + n
  if 16 ≤ count then
    let left := Nat.pow 2 (count - 16)
    let (out, high) := unitStep high (bits / left)
    (out, .stretch (count - 16) (bits % left) high)
  else ([], .stretch count bits high)

/-- The octet that closes a stretch: bits left over must be few and all zero, and then a hyphen is part
of the stretch. -/
def closeStep (count bits : Nat) (high : Option Nat) (b : Nat) : List (Option Char) × State :=
  if 6 ≤ count || bits ≠ 0 then ([none], .plain)
  else
    let (out, next) := if b = 45 then ([], .plain) else plainStep b
    (match high with
      | some h => if b < 128 && b ≠ 43 then some (ofSurrogate h) :: out else out
      | none => out, next)

def step (b : Nat) : State → List (Option Char) × State
  | .plain => plainStep b
  | .opened =>
    match sextet? b with
    | some n => bitsStep 0 0 none n
    | none => ([if b = 45 then some '+' else none], .plain)
  | .stretch count bits high =>
    match sextet? b with
    | some n => bitsStep count bits high n
    | none => closeStep count bits high b

def mayEnd : State → Bool
  | .stretch count bits high => count < 6 && bits = 0 && high.isNone
  | _ => true

/-- Octets to characters, a gap as nothing. -/
def scan : State → List UInt8 → List (Option Char)
  | s, [] => if mayEnd s then [] else [none]
  | s, b :: rest =>
    let (out, next) := step b.toNat s
    out ++ scan next rest

/-- The text of the octets, with a replacement character in each gap. -/
def decode (bs : List UInt8) : List Char := (scan .plain bs).map (·.getD replacement)

end SessionKeeper.Text.Seven

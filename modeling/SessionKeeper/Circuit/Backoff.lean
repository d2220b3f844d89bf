import SessionKeeper.Fault
import SessionKeeper.Number

/-!
# Waiting between attempts

* `Backoff.raw` : the base times two to the power of the attempt, at most a limit.
* `Backoff.withJitter` : that plus a share of its half.
-/

namespace SessionKeeper.Backoff

open Decimal

/-- The floating-point number, or a fault when it is beyond the largest. -/
def bounded (x : Float) : Except Fault Float := if x.isInf then .error .tooLarge else .ok x

def realOfInt (i : Int) : Except Fault Float := bounded (floatOfInt i)

/-- A negative power of two. Powers below the smallest number are zero; an exponent that is itself
beyond the largest number is a fault. -/
def inversePower (n : Nat) : Except Fault Float := do
  let _ ← realOfInt n
  return if 1100 < n then 0.0 else floatOfScaled false (Nat.pow 5 n) (-(n : Int))

/-- A number times a power of two. A floating-point base needs the power as a floating-point number,
an integer base needs none; powers from `2 ^ 1024` on are beyond the largest number. -/
def timesPower : Number → Int → Except Fault Number
  | .integer b, .ofNat n => .ok (.integer (b * twoTo n))
  | .integer b, .negSucc n => do return .real ((← realOfInt b) * (← inversePower (n + 1)))
  | .real b, .ofNat n => if 1024 ≤ n then .error .tooLarge else .ok (.real (b * floatOfInt (twoTo n)))
  | .real b, .negSucc n => do return .real (b * (← inversePower (n + 1)))

/-- The waiting time after an attempt, without jitter. -/
def raw (base : Number) (limit : Option Number) (attempt : Int) : Except Fault Number := do
  let delay ← timesPower base attempt
  match limit with
  | some m => return if m.less delay then m else delay
  | none => return delay

def half : Number → Except Fault Float
  | .real x => .ok (x / 2.0)
  | .integer i => bounded (floatOfScaled (i < 0) (i.natAbs * 5) (-1))

/-- The waiting time with a share of its half on top. -/
def withJitter (delay : Number) (share : Float) : Except Fault Float := do
  let extra := share * (← half delay)
  match delay with
  | .real x => return x + extra
  | .integer i => return (← realOfInt i) + extra

end SessionKeeper.Backoff

import SessionKeeper.Circuit.Backoff
import SessionKeeper.World

/-!
# Guarded calls

* `Guard` : the rule of the circuits and the limit of the waiting time.
* `Guard.isOpen`, `Guard.succeed`, `Guard.fail`, `Guard.prune`, `Guard.reset` : the steps of the circuits
  at the time of the clock.
* `Guard.retry` : a call under the circuit of a key, repeated after failures that may pass.
-/

namespace SessionKeeper

/-- The rule of the circuits and the limit of the waiting time. -/
structure Guard (τ : Type) where
  rule : CircuitRule τ
  maxBackoff : Option Number

namespace Guard

variable {σ τ α : Type} [Timeline τ] [Surroundings σ τ]

/-- Asks an open circuit at the time of the clock. -/
def askAtNow (g : Guard τ) (key : String) : Effect σ τ Bool := do
  let t ← Effect.now
  modifyGet fun w => ((w.circuits.ask g.rule key t).1,
    { w with circuits := (w.circuits.ask g.rule key t).2 })

/-- Whether calls for the key are rejected. The clock is read only when the circuit is open. -/
def isOpen (g : Guard τ) (key : String) : Effect σ τ Bool := do
  let w : World σ τ ← get
  let rejected ← match w.circuits.phaseOf key with
    | .opened => g.askAtNow key
    | .halfOpen => pure true
    | .closed => pure false
  Effect.note (.asked key rejected)
  return rejected

def succeed (key : String) : Effect σ τ Unit := do
  modify fun w => { w with circuits := w.circuits.succeed key }
  Effect.note (.succeeded key)

def fail (g : Guard τ) (key : String) : Effect σ τ Unit := do
  let t ← Effect.now
  modify fun w => { w with circuits := w.circuits.fail g.rule key t }
  Effect.note (.failed key t)

/-- Forgets keys that have been quiet for long, and counts them. -/
def prune (g : Guard τ) : Effect σ τ Nat := do
  let t ← Effect.now
  let n ← modifyGet fun w =>
    (w.circuits.staleCount g.rule t, { w with circuits := w.circuits.prune g.rule t })
  Effect.note (.pruned t)
  return n

def reset : Effect σ τ Unit := modify fun w => { w with circuits := [] }

def backoff (g : Guard τ) (attempt : Int) : Act σ τ Float := do
  let delay ← Act.ofExcept (Backoff.raw (.real 1.0) g.maxBackoff attempt)
  let share ← Act.ofEffect Effect.chance
  Act.ofExcept (Backoff.withJitter delay share)

def record (g : Guard τ) (key : String) : Except Fault α → Effect σ τ Unit
  | .ok _ => succeed key
  | .error _ => g.fail key

/-- One attempt: the circuit is asked, the call is made, its outcome is recorded and handed over. A
rejection by the circuit is a failure; it follows from `last`, the failure before. -/
def trial (g : Guard τ) (key : String) (call : Act σ τ α) (last : Option Fault) :
    Act σ τ (Except Fault α) := do
  if ← Act.ofEffect (g.isOpen key) then throw (Fault.circuitOpen key last)
  let outcome ← call.attempt
  Act.ofEffect (g.record key outcome)
  return outcome

def pause (g : Guard τ) (attempt : Nat) : Act σ τ Unit := do
  let delay ← g.backoff attempt
  Act.ofEffect (Effect.sleep delay)

/-- One attempt and up to `left` more after it. -/
def retryFrom (g : Guard τ) (key : String) (call : Act σ τ α) (attempt : Nat) (last : Option Fault) :
    Nat → Act σ τ α
  | 0 => do Act.ofExcept (← g.trial key call last)
  | left + 1 => do
    match ← g.trial key call last with
    | .ok a => return a
    | .error e =>
      if e.isRetryable then do
        g.pause attempt
        retryFrom g key call (attempt + 1) (some e) left
      else throw e

/-- The wording for a number of attempts below one. -/
def attemptsMessage : String := "max_attempts must be at least 1"

/-- Calls up to `attempts` times under the circuit of the key. A failure that may pass is followed by
another attempt after a while; any other failure ends the call. -/
def retry (g : Guard τ) (key : String) (attempts : Int) (call : Act σ τ α) : Act σ τ α :=
  if attempts < 1 then throw (.badValue attemptsMessage none)
  else g.retryFrom key call 1 none (attempts.toNat - 1)

end Guard

end SessionKeeper

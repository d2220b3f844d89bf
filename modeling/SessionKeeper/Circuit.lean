import SessionKeeper.Json.Value

/-!
# Circuits

A circuit per key counts failures. At the threshold it opens and rejects calls; when the reset
timeout has passed since the last failure, one trial call is let through.

* `Timeline` : the two questions that are asked about points in time.
* `Circuit`, `Circuits` : the state of a key, and of all keys in the order of their first failure.
* `Circuits.ask`, `Circuits.succeed`, `Circuits.fail`, `Circuits.prune` : the steps.
-/

namespace SessionKeeper

/-! ## Time -/

/-- The questions that circuits ask about points in time. -/
class Timeline (τ : Type) where
  /-- Whether `span` has passed since a point in time. -/
  elapsed (span since now : τ) : Bool
  /-- Whether a point in time lies ten times `span` back. -/
  outdated (span since now : τ) : Bool

/-- Points in time as numbers. -/
@[reducible] def Timeline.ofArithmetic {τ : Type} [Sub τ] [Mul τ] [LE τ] [DecidableLE τ] [OfNat τ 10] :
    Timeline τ where
  elapsed span since now := span ≤ now - since
  outdated span since now := since ≤ now - span * 10

instance : Timeline Float := .ofArithmetic

instance : Timeline Number := .ofArithmetic

/-! ## State -/

/-- Whether calls pass. -/
inductive Phase where
  | closed
  | opened
  | halfOpen
deriving DecidableEq, Inhabited

def Phase.text : Phase → String
  | closed => "closed"
  | opened => "open"
  | halfOpen => "half_open"

/-- The state of one key. -/
structure Circuit (τ : Type) where
  failures : Nat
  lastFailure : τ
  phase : Phase

/-- The state of a key as a structured value. -/
def Circuit.json {τ : Type} (time : τ → Json) (c : Circuit τ) : Json :=
  .object [("failure_count", .number (.integer c.failures)), ("last_failure_at", time c.lastFailure),
    ("phase", .text c.phase.text)]

/-- When circuits open and how long they stay so. -/
structure CircuitRule (τ : Type) where
  threshold : Int
  resetTimeout : τ

/-- The state of every key that failed, in the order of the first failure. -/
abbrev Circuits (τ : Type) := List (String × Circuit τ)

namespace Circuits

variable {τ : Type}

def find (cs : Circuits τ) (key : String) : Option (Circuit τ) :=
  (cs.find? (·.1 == key)).map (·.2)

/-- The phase of a key; the circuit of a key that did not fail is closed. -/
def phaseOf (cs : Circuits τ) (key : String) : Phase := (cs.find key).elim .closed (·.phase)

def erase (cs : Circuits τ) (key : String) : Circuits τ := cs.filter (·.1 != key)

/-- Writes the state of a key; a key that is there keeps its place. -/
def write (cs : Circuits τ) (key : String) (c : Circuit τ) : Circuits τ :=
  if cs.any (·.1 == key) then cs.map fun e => if e.1 == key then (key, c) else e
  else cs ++ [(key, c)]

/-! ## Steps -/

/-- Whether a call is rejected at a point in time, and the state after the question: an open circuit
that has waited long enough becomes half open and lets this one call pass. -/
def ask [Timeline τ] (rule : CircuitRule τ) (key : String) (now : τ) (cs : Circuits τ) :
    Bool × Circuits τ :=
  match cs.find key with
  | none => (false, cs)
  | some c =>
    match c.phase with
    | .closed => (false, cs)
    | .halfOpen => (true, cs)
    | .opened =>
      if Timeline.elapsed rule.resetTimeout c.lastFailure now then
        (false, cs.write key { c with phase := .halfOpen })
      else (true, cs)

/-- A call succeeded: the key is forgotten. -/
def succeed (key : String) (cs : Circuits τ) : Circuits τ := cs.erase key

/-- The state of a key after one more failure. -/
def worsened (rule : CircuitRule τ) (now : τ) (c : Option (Circuit τ)) : Circuit τ :=
  let count := (c.elim 0 (·.failures)) + 1
  ⟨count, now, if rule.threshold ≤ (count : Int) then .opened else c.elim .closed (·.phase)⟩

def fail (rule : CircuitRule τ) (key : String) (now : τ) (cs : Circuits τ) : Circuits τ :=
  cs.write key (worsened rule now (cs.find key))

/-- Whether the last failure of a key lies ten reset timeouts back. -/
def isStale [Timeline τ] (rule : CircuitRule τ) (now : τ) (e : String × Circuit τ) : Bool :=
  Timeline.outdated rule.resetTimeout e.2.lastFailure now

/-- Forgets the keys whose last failure lies ten reset timeouts back. -/
def prune [Timeline τ] (rule : CircuitRule τ) (now : τ) (cs : Circuits τ) : Circuits τ :=
  cs.filter fun e => !isStale rule now e

/-- How many keys pruning forgets. -/
def staleCount [Timeline τ] (rule : CircuitRule τ) (now : τ) (cs : Circuits τ) : Nat :=
  (cs.filter (isStale rule now)).length

/-! ## Views -/

/-- The states of the keys as a structured value. -/
def json (time : τ → Json) (cs : Circuits τ) : Json :=
  .object (cs.map fun e => (e.1, e.2.json time))

end Circuits

end SessionKeeper

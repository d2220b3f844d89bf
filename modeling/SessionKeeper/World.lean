import SessionKeeper.Circuit
import SessionKeeper.Fault
import SessionKeeper.Url

/-!
# The keeper and its surroundings

* `Request`, `Exchange` : what is sent, and what comes of it.
* `Surroundings` : all that the keeper meets outside: services, clocks, sleep and chance.
* `World` : the surroundings with the state of the keeper and a journal of what it did.
* `Effect`, `Act` : what is done in the world, and what may fail; what was done before a failure stays
  done.
-/

namespace SessionKeeper

/-! ## Requests and answers -/

/-- What is sent to a service. -/
structure Request where
  method : String
  url : Url
  accept : String
  token : Option String
  body : Option Json

/-- The answer of a service. -/
structure Reply where
  status : Int
  body : List UInt8
  contentType : Option String
  /-- How many lists and objects inside one another can be read where the answer is taken. -/
  room : Nat

/-- What comes of a request: an answer, no answer, or an answer that could not be taken, with its status where that
is known. -/
inductive Exchange where
  | received (reply : Reply)
  | lost (message : String)
  | undecodable (message : String) (status : Option Int := none)
  | tooManyRedirects (message : String) (status : Option Int := none)
  /-- The connections were closed before. -/
  | closed

/-! ## Surroundings -/

/-- What lies outside the keeper, with a state `σ` of its own and points in time `τ`. -/
class Surroundings (σ : Type) (τ : outParam Type) where
  /-- Sends a request. -/
  exchange : Request → σ → Exchange × σ
  /-- Reads the steady clock. -/
  now : σ → τ × σ
  /-- Waits for some seconds. -/
  sleep : Float → σ → σ
  /-- Draws a number between zero and one. -/
  chance : σ → Float × σ
  /-- Reads the calendar clock, in milliseconds. -/
  milliseconds : σ → Int × σ
  /-- Closes all connections. -/
  close : σ → σ

/-! ## Journal -/

/-- Something that the keeper did. -/
inductive Event (τ : Type) where
  | sent (request : Request) (exchange : Exchange)
  | slept (seconds : Float)
  | asked (key : String) (rejected : Bool)
  | succeeded (key : String)
  | failed (key : String) (time : τ)
  | pruned (time : τ)

/-- The token of the provider: the configured one, and the one that replaced it. -/
structure Credential where
  configured : Option String
  renewed : Option String

/-- The surroundings and the state of the keeper; the journal is kept newest first. -/
structure World (σ τ : Type) where
  outside : σ
  circuits : Circuits τ
  credential : Credential
  journal : List (Event τ)

/-! ## Actions -/

/-- What is done in the world and cannot fail. -/
abbrev Effect (σ τ : Type) := StateM (World σ τ)

/-- An action in the world, which may fail. -/
abbrev Act (σ τ : Type) := ExceptT Fault (Effect σ τ)

namespace Effect

variable {σ τ α : Type}

def note (e : Event τ) : Effect σ τ Unit := modify fun w => { w with journal := e :: w.journal }

/-- Applies a step of the surroundings. -/
def outside (f : σ → α × σ) : Effect σ τ α := modifyGet fun w =>
  ((f w.outside).1, { w with outside := (f w.outside).2 })

variable [Surroundings σ τ]

def exchange (r : Request) : Effect σ τ Exchange := do
  let x ← outside (Surroundings.exchange r)
  note (.sent r x)
  return x

def now : Effect σ τ τ := outside Surroundings.now

def sleep (seconds : Float) : Effect σ τ Unit := do
  outside fun o => ((), Surroundings.sleep seconds o)
  note (.slept seconds)

/-- Draws a number between zero and one. -/
def chance : Effect σ τ Float := outside Surroundings.chance

/-- Reads the calendar clock, in milliseconds. -/
def milliseconds : Effect σ τ Int := outside Surroundings.milliseconds

def close : Effect σ τ Unit := outside fun o => ((), Surroundings.close o)

end Effect

namespace Act

variable {σ τ α : Type}

/-- The result of a pure step. -/
def ofExcept (r : Except Fault α) : Act σ τ α := ExceptT.mk (pure r)

/-- Something that cannot fail, as an action. -/
def ofEffect (e : Effect σ τ α) : Act σ τ α := ExceptT.lift e

/-- What comes of an action: its result or its failure. -/
def outcome (a : Act σ τ α) : Effect σ τ (Except Fault α) := a.run

/-- Does an action and hands its failure over as a value. -/
def attempt (a : Act σ τ α) : Act σ τ (Except Fault α) := ofEffect a.outcome

end Act

end SessionKeeper

import SessionKeeper.LogLevel
import SessionKeeper.Service

/-!
# Services of a process

One of the services of a process is installed; requests from outside go to it.

* `Runtime` : a service with its state.
* `Site` : the services of a process, which of them is installed, and the log.
* `Site.act` : something that a service does.
* `Site.ensure`, `Site.startUp`, `Site.shutDown` : the life of the installed service.
-/

namespace SessionKeeper

/-- A service with its state. -/
structure Runtime (τ : Type) where
  service : Service τ
  upkeep : Upkeep
  circuits : Circuits τ
  credential : Credential

/-- The service that settings ask for, before it has done anything. -/
def Runtime.ofSettings {τ : Type} (ofSeconds : Float → τ) (s : Settings) : Except Fault (Runtime τ) := do
  let service ← Service.ofSettings ofSeconds s
  return ⟨service, .ofSettings s, [], ⟨s.providerToken, none⟩⟩

/-- The services of a process in the order in which they were built, which of them is installed, the
log, what lies outside, and the journal. -/
structure Site (σ τ : Type) where
  outside : σ
  runtimes : List (Runtime τ)
  installed : Option Nat
  log : Log
  journal : List (Event τ)

/-- A step of a process, which may fail. -/
abbrev SiteAct (σ τ : Type) := ExceptT Fault (StateM (Site σ τ))

namespace Site

variable {σ τ α : Type}

def missingMessage : String := "executor runtime is not configured"

def current : SiteAct σ τ Nat := do
  let s : Site σ τ ← get
  match s.installed with
  | some i => return i
  | none => throw (.badState missingMessage)

def install (i : Nat) : SiteAct σ τ Unit := modify fun s => { s with installed := some i }

def uninstall : SiteAct σ τ Unit := modify fun s => { s with installed := none }

/-- Builds a service; tells its number. -/
def build (ofSeconds : Float → τ) (settings : Settings) : SiteAct σ τ Nat := do
  match Runtime.ofSettings ofSeconds settings with
  | .ok r => do
    let s : Site σ τ ← get
    set { s with runtimes := s.runtimes ++ [r] }
    return s.runtimes.length
  | .error e => throw e

/-- The installed service; if there is none, one is built and installed. -/
def ensure (ofSeconds : Float → τ) (settings : Settings) : SiteAct σ τ Nat := do
  let s : Site σ τ ← get
  match s.installed with
  | some i => return i
  | none => do
    let i ← build ofSeconds settings
    install i
    return i

def runtime (i : Nat) : SiteAct σ τ (Runtime τ) := do
  let s : Site σ τ ← get
  match s.runtimes[i]? with
  | some r => return r
  | none => throw (.badState missingMessage)

def act (i : Nat) (f : Service τ → Duty σ τ α) : SiteAct σ τ α := do
  let r ← runtime i
  let s : Site σ τ ← get
  let ((result, upkeep), w) :=
    ((f r.service).run.run r.upkeep).run ⟨s.outside, r.circuits, r.credential, s.journal⟩
  let r := { r with upkeep := upkeep, circuits := w.circuits, credential := w.credential }
  set { s with outside := w.outside, journal := w.journal, runtimes := s.runtimes.set i r }
  match result with
  | .ok a => return a
  | .error e => throw e

def setLevel (level : String) : SiteAct σ τ Unit := do
  let s : Site σ τ ← get
  match s.log.configure (.text level) with
  | .ok log => set { s with log := log }
  | .error e => throw e

variable [Timeline τ] [Surroundings σ τ]

/-- Starts the service that requests will go to. -/
def startUp (ofSeconds : Float → τ) (settings : Settings) : SiteAct σ τ Nat := do
  let i ← ensure ofSeconds settings
  act i (·.start)
  return i

/-- Ends the service that was started, and installs none. -/
def shutDown (i : Nat) : SiteAct σ τ Unit := do
  act i fun _ => Service.shutDown
  uninstall

end Site

end SessionKeeper

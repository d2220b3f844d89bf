import SessionKeeper.Pass.Desk
import SessionKeeper.Settings
import SessionKeeper.Timetable

/-!
# The service

All parts of the keeper, put together from its settings.

* `Chore`, `Service` : what the timetable does, and the parts.
* `Service.ofSettings` : the parts for some settings.
* `Upkeep` : the timetable and the desk of a service.
* `Service.perform`, `Service.start`, `Service.shutDown` : what a service does.
-/

namespace SessionKeeper

/-! ## Parts -/

/-- What the timetable does: passes, and renewing the token. -/
inductive Chore where
  | pass (p : Pass)
  | renewal
deriving DecidableEq

/-- The parts of the keeper. -/
structure Service (τ : Type) where
  settings : Settings
  guard : Guard τ
  registry : Registry τ
  provider : Provider
  keeper : Keeper τ

namespace Service

/-- The rule of the circuits and the limit of the waiting time that settings ask for. -/
def guardOf {τ : Type} (ofSeconds : Float → τ) (s : Settings) : Guard τ :=
  ⟨⟨s.circuitFailureThreshold, ofSeconds s.circuitResetTimeout⟩, some (.real s.maxBackoff)⟩

/-- The keeper that settings ask for; records are asked about exactly if they are written. -/
def keeperOf {τ : Type} (s : Settings) (g : Guard τ) (r : Registry τ) (p : Provider) : Keeper τ where
  registry := r
  provider := p
  creation := {
    provider := p
    registry := r
    guard := g
    houseWord := s.templateKeyword
    mirrors := s.mirrorWorkspaceRecords }
  guard := g
  confirms := s.mirrorWorkspaceRecords

def ofSettings {τ : Type} (ofSeconds : Float → τ) (s : Settings) : Except Fault (Service τ) := do
  let g := guardOf ofSeconds s
  let r ← Registry.connect? s.registryBaseUrl g
  let p ← Provider.connect? s.providerBaseUrl
  return ⟨s, g, r, p, keeperOf s g r p⟩

/-! ## State -/

def renewalName : String := "token_refresh"

def passTask (p : Pass) (interval : Float) : Routine Chore := ⟨p.text, .real interval, .pass p, .real 0.0⟩

/-- The tasks that settings ask for: the passes, and renewing the token if there is one. -/
def tasksOf (s : Settings) : List (Routine Chore) :=
  [passTask .new s.newSessionInterval, passTask .active s.activeSessionInterval,
    passTask .inactive s.inactiveSessionInterval] ++
  if s.providerToken.isSome then
    [⟨renewalName, .real s.tokenRefreshInterval, .renewal, .real s.tokenRefreshInterval⟩]
  else []

end Service

/-- The timetable and the desk of a service. -/
structure Upkeep where
  timetable : Timetable Chore
  desk : Desk

/-- The upkeep of a service that has just been built. -/
def Upkeep.ofSettings (s : Settings) : Upkeep :=
  ⟨(Service.tasksOf s).foldl (fun t task => (t.add task).2) (.empty s.schedulerWorkers), .empty⟩

/-- What a service does, which may fail. -/
abbrev Duty (σ τ : Type) := ExceptT Fault (StateT Upkeep (Effect σ τ))

/-- What came of a chore. -/
inductive Outcome where
  | report (r : Report)
  | renewed (done : Bool)

namespace Service

variable {σ τ : Type} [Timeline τ] [Surroundings σ τ]

def duty {α : Type} (a : Act σ τ α) : Duty σ τ α := ExceptT.mk (StateT.lift a.outcome)

def atDesk {α : Type} (f : StateT Desk (Effect σ τ) α) : Duty σ τ α :=
  ExceptT.mk fun (u : Upkeep) => do
    let (a, d) ← f.run u.desk
    return (.ok a, { u with desk := d })

def runPass (s : Service τ) (p : Pass) : Duty σ τ Report := atDesk (s.keeper.runPass p)

def runNamed (s : Service τ) (name : String) : Duty σ τ Report := do
  match Pass.ofText name with
  | .ok p => s.runPass p
  | .error e => throw e

def perform (s : Service τ) : Chore → Duty σ τ Outcome
  | .pass p => do return .report (← s.runPass p)
  | .renewal => do return .renewed (← duty s.provider.keyring.renewOnSchedule)

/-- Does the chore of the task of that name. -/
def performNamed (s : Service τ) (name : String) : Duty σ τ Outcome := do
  let u : Upkeep ← get
  match u.timetable.find name with
  | .ok task => s.perform task.action
  | .error e => throw e

def create (s : Service τ) (session : Session) : Duty σ τ (Option Workspace) :=
  duty (s.keeper.creation.createFor session)

/-- Starts the timetable, unless the settings are against it. -/
def start (s : Service τ) : Duty σ τ Unit := do
  if s.settings.schedulerEnabled then
    let u : Upkeep ← get
    let (refusal, t) := u.timetable.start
    set { u with timetable := t }
    match refusal with
    | some e => throw e
    | none => return

/-- Stops the timetable and closes all connections. -/
def shutDown : Duty σ τ Unit := do
  modify fun u => { u with timetable := u.timetable.stop }
  duty (Act.ofEffect Effect.close)

end Service

end SessionKeeper

import SessionKeeper.Creation
import SessionKeeper.Workspace.Condition

/-!
# Passes over the sessions

Each pass lists the sessions of one stage and brings each of them into a consistent state.

* `Pass` : new, active and inactive sessions.
* `Counts`, `Report` : what a pass did.
* `Keeper` : the services and settings of the passes.
* `Keeper.owned` : the workspaces that count for a session.
* `Keeper.handle` : what is done for one session.
* `Keeper.overSessions` : a whole pass.
-/

namespace SessionKeeper

/-! ## Passes and reports -/

/-- The passes. -/
inductive Pass where
  | new
  | active
  | inactive
deriving DecidableEq, Inhabited

namespace Pass

def text : Pass → String
  | new => "new"
  | active => "active"
  | inactive => "inactive"

def all : List Pass := [new, active, inactive]

def ofText? (s : String) : Option Pass := all.find? (·.text == s)

def status : Pass → SessionStatus
  | new => .pending
  | active => .active
  | inactive => .inactive

end Pass

/-- What was done for sessions. -/
structure Counts where
  created : Nat
  activated : Nat
  deactivated : Nat
  started : Nat
deriving DecidableEq, Inhabited

def Counts.zero : Counts := ⟨0, 0, 0, 0⟩

/-- The outcome of a pass. -/
structure Report where
  pass : Pass
  sessions : Nat
  processed : Nat
  skipped : Nat
  failed : Nat
  counts : Counts
  aborted : Option String
deriving DecidableEq, Inhabited

/-- A pass that has done nothing yet. -/
def Report.empty (p : Pass) : Report := ⟨p, 0, 0, 0, 0, .zero, none⟩

/-- A report as a structured value; a report is made when its pass has ended. -/
def Report.json (r : Report) : Json :=
  let count (n : Nat) : Json := .ofInt n
  .object [("name", .text r.pass.text), ("finished", .bool true), ("sessions", count r.sessions),
    ("processed", count r.processed), ("skipped", count r.skipped), ("failed", count r.failed),
    ("created", count r.counts.created), ("activated", count r.counts.activated),
    ("deactivated", count r.counts.deactivated), ("started", count r.counts.started),
    ("aborted", .orNull .text r.aborted)]

/-- The wording for a pass that is running already. -/
def Report.busyMessage : String := "already running"

/-- The report of a pass that was not started because it is running already. -/
def Report.busy (p : Pass) : Report := { Report.empty p with aborted := some busyMessage }

/-! ## Steps for one session -/

/-- What the passes need. -/
structure Keeper (τ : Type) where
  registry : Registry τ
  provider : Provider
  creation : Creation τ
  guard : Guard τ
  /-- Whether a workspace that is known by the beginning of its name alone needs a record. -/
  confirms : Bool

/-- Work on one session: it counts what it does, and what it counted before a failure stays counted. -/
abbrev Work (σ τ : Type) := ExceptT Fault (StateT Counts (Effect σ τ))

namespace Work

variable {σ τ α : Type}

def ofAct (a : Act σ τ α) : Work σ τ α := ExceptT.mk (liftM a.outcome)

def count (f : Counts → Counts) : Work σ τ Unit := modify f

end Work

namespace Keeper

variable {σ τ : Type} [Timeline τ] [Surroundings σ τ]

/-- Whether a workspace carries the whole id of a session. -/
def isExplicit (s : Session) (w : Workspace) : Bool := ownsExplicitly s.id w.name w.templateName

/-- Whether a record names the workspace, by its name or by its id. -/
def isRecorded (records : List WorkspaceRecord) (w : Workspace) : Bool :=
  records.any fun r =>
    r.name == w.name || (r.workspaceId.any fun id => !id.isEmpty && id == w.id)

/-- Whether the workspace has the id of one that carries the whole id of the session. -/
def sharesExplicitId (s : Session) (ws : List Workspace) (w : Workspace) : Bool :=
  ws.any fun v => isExplicit s v && v.id == w.id

/-- Whether every workspace carries the whole id of the session, and no two have the same id. -/
def allExplicit (s : Session) (ws : List Workspace) : Bool :=
  ((ws.filter (isExplicit s)).map (·.id)).eraseDups.length == ws.length

def owned (k : Keeper τ) (s : Session) : Act σ τ (List Workspace) := do
  let ws ← k.provider.workspacesOf s.id
  if !k.confirms || allExplicit s ws then return ws
  let records ← k.registry.records s.id
  return ws.filter fun w => sharesExplicitId s ws w || isRecorded records w

/-- Asks the registry for another stage of a session. -/
def setStatus (k : Keeper τ) (s : Session) (status : SessionStatus) : Work σ τ Unit :=
  Work.ofAct do
    let _ ← k.registry.updateStatusRetrying s.id status

def create (k : Keeper τ) (s : Session) : Work σ τ Unit := do
  if (← Work.ofAct (k.creation.createFor s)).isSome then
    Work.count fun c => { c with created := c.created + 1 }

/-- Does work whose failure does no harm; faults that are not the keeper's own still count. -/
def tolerating (w : Work σ τ Unit) : Work σ τ Unit := do
  match ← ExceptT.lift w.run with
  | .ok _ => return
  | .error e => if e.isOwn then return else throw e

/-- A new session: it gets a workspace if it has none, and becomes active. -/
def handleNew (k : Keeper τ) (s : Session) : Work σ τ Unit := do
  let ws ← Work.ofAct (k.owned s)
  if ws.isEmpty then tolerating (k.create s)
  k.setStatus s .active
  Work.count fun c => { c with activated := c.activated + 1 }

/-- An inactive session: it becomes active if a workspace runs. -/
def handleInactive (k : Keeper τ) (s : Session) : Work σ τ Unit := do
  let ws ← Work.ofAct (k.owned s)
  if !(Partition.ofList Workspace.status ws).running.isEmpty then
    k.setStatus s .active
    Work.count fun c => { c with activated := c.activated + 1 }

def startKey (id : String) : String := "start_workspace_" ++ id

/-- How often starting a workspace is tried. -/
def startAttempts : Int := 3

/-- Starts workspaces one after another. A failure of one does not keep the others from being started;
the last failure is the outcome. -/
def startAll (k : Keeper τ) (last : Option Fault) : List Workspace → Work σ τ Unit
  | [] => match last with
    | none => return
    | some e => throw e
  | w :: rest => do
    let call : Act σ τ Unit := k.guard.retry (startKey w.id) startAttempts (k.provider.start w.id)
    match ← ExceptT.lift (liftM call.outcome : StateT Counts (Effect σ τ) (Except Fault Unit)) with
    | .ok _ => do
      Work.count fun c => { c with started := c.started + 1 }
      startAll k last rest
    | .error e => if e.isOwn then startAll k (some e) rest else throw e

/-- An active session: it gets a workspace if it has none; it becomes inactive if all are stopped; if
some run, the stopped ones are started. -/
def handleActive (k : Keeper τ) (s : Session) : Work σ τ Unit := do
  let ws ← Work.ofAct (k.owned s)
  let p := Partition.ofList Workspace.status ws
  if ws.isEmpty then k.create s
  else if p.allStopped then
    k.setStatus s .inactive
    Work.count fun c => { c with deactivated := c.deactivated + 1 }
  else if p.isMixed then k.startAll none p.stopped

def handle (k : Keeper τ) : Pass → Session → Work σ τ Unit
  | .new => k.handleNew
  | .active => k.handleActive
  | .inactive => k.handleInactive

/-! ## Whole passes -/

def step (k : Keeper τ) (r : Report) (s : Session) : Effect σ τ Report := do
  if ← k.guard.isOpen s.circuitKey then return { r with skipped := r.skipped + 1 }
  let (outcome, counts) ← ((k.handle r.pass s).run.run r.counts)
  k.guard.record s.circuitKey outcome
  match outcome with
  | .ok _ => return { r with counts := counts, processed := r.processed + 1 }
  | .error _ => return { r with counts := counts, failed := r.failed + 1 }

def steps (k : Keeper τ) (r : Report) (ss : List Session) : Effect σ τ Report :=
  ss.foldlM k.step { r with sessions := ss.length }

/-- A whole pass. When the sessions cannot be listed, nothing else is done. -/
def overSessions (k : Keeper τ) (p : Pass) : Effect σ τ Report := do
  match ← (k.registry.sessions p.status).outcome with
  | .error e => return { Report.empty p with aborted := some e.message }
  | .ok ss => k.steps (Report.empty p) ss

end Keeper

end SessionKeeper

import SessionKeeper.Provider
import SessionKeeper.Registry
import SessionKeeper.Template.Choice
import SessionKeeper.Workspace.Name

/-!
# Creating a workspace for a session

* `Creation` : the services and the settings of the work.
* `Creation.createFor` : chooses a template, creates a workspace, starts it and writes it into the
  registry. The last two may fail without harm: the active pass starts stopped workspaces.
-/

namespace SessionKeeper

/-- What the creation of workspaces needs. -/
structure Creation (τ : Type) where
  provider : Provider
  registry : Registry τ
  guard : Guard τ
  /-- The word in the names of the templates of the house. -/
  houseWord : String
  /-- Whether new workspaces are written into the registry. -/
  mirrors : Bool

namespace Creation

variable {σ τ : Type} [Timeline τ] [Surroundings σ τ]

def circuitKey (sessionId : String) : String := "create_workspace_" ++ sessionId

/-- How often creating a workspace is tried. -/
def attempts : Int := 2

/-- Does something whose failure does no harm; faults that are not the keeper's own still count. -/
def tolerating (a : Act σ τ Unit) : Act σ τ Unit := do
  match ← a.attempt with
  | .ok _ => return
  | .error e => if e.isOwn then return else throw e

def recordOf (s : Session) (w : Workspace) (templateId : String) : RecordRequest :=
  ⟨w.name, s.id, some templateId, true, RecordRequest.plainTtl⟩

/-- Writes a new workspace into the registry. -/
def mirror (c : Creation τ) (s : Session) (w : Workspace) (templateId : String) : Act σ τ Unit := do
  let _ ← c.registry.createRecordRetrying (recordOf s w templateId)

/-- Creates a workspace from a template, starts it and writes it into the registry. -/
def createFrom (c : Creation τ) (s : Session) (t : Template) : Act σ τ Workspace := do
  let time ← Act.ofEffect Effect.milliseconds
  let name := WorkspaceName.generate s.id s.name time
  let w ← c.guard.retry (circuitKey s.id) attempts (c.provider.createOrGet name t.id)
  tolerating (c.provider.start w.id)
  if c.mirrors then tolerating (c.mirror s w t.id)
  return w

/-- Creates a workspace for a session, if there is a template for it. -/
def createFor (c : Creation τ) (s : Session) : Act σ τ (Option Workspace) := do
  let ts ← c.provider.templates
  match Template.choose ts s.tags c.houseWord with
  | none => return none
  | some t => return some (← c.createFrom s t)

end Creation

end SessionKeeper

import SessionKeeper.Call
import SessionKeeper.Circuit.Guard
import SessionKeeper.Endpoint
import SessionKeeper.Record
import SessionKeeper.Session

/-!
# The registry

The registry holds sessions and records of workspaces.

* `Registry`, `Registry.connect?` : a registry at a base address.
* `readItems`, `readBody` : a collection is read whole or not at all.
* `Registry.sessions`, `Registry.updateStatus`, `Registry.records`, `Registry.createRecord`,
  `Registry.startRecord`, `Registry.defaultTemplate` : its operations; those with `Retrying` repeat a
  failed call under a circuit.
-/

namespace SessionKeeper

/-- A registry at an address. -/
structure Registry (τ : Type) where
  root : String
  guard : Guard τ

/-! ## Reading replies -/

/-- The items of a collection: a list, or an object that wraps one; null means none. -/
def collectionOf (data : Json) (operation : String) : Except Fault (List Json) :=
  let unwrapped := match data with
    | .object fields =>
      ((Json.lookup "items" fields).getD .null).orElse
        (((Json.lookup "content" fields).getD .null).orElse (.list []))
    | j => j
  match data, unwrapped with
  | .null, _ => .ok []
  | _, .list items => .ok items
  | _, j =>
    .error (.call .format (operation ++ " returned " ++ j.kind ++ ", expected a list") operation none)

/-- The fault of a reply whose content cannot be used. -/
def malformed (operation what : String) (issues : List Issue) : Fault :=
  .remote .format (operation ++ " returned " ++ what ++ ": " ++ Fault.issuesMark) operation none
    (some issues) none

/-- Every item of a collection, or the fault of the first that cannot be used. -/
def readItems {α : Type} (read : Json → Checked α) (operation : String) (data : Json) :
    Except Fault (List α) := do
  let items ← collectionOf data operation
  items.mapM fun j => (read j).toExcept (malformed operation "malformed items")

/-- The content of a reply. -/
def readBody {α : Type} (read : Json → Checked α) (operation : String) (data : Json) : Except Fault α :=
  (read data).toExcept (malformed operation "a malformed body")

namespace Registry

variable {σ τ : Type} [Timeline τ] [Surroundings σ τ]

def connect? (base : String) (g : Guard τ) : Except Fault (Registry τ) := do
  Endpoint.check base
  return ⟨Endpoint.root base "/api/v1", g⟩

/-- Whether the fault is that the service does not know the thing. -/
def isNotFound : Fault → Bool
  | .remote .notFound .. => true
  | _ => false

/-- Whether the fault is that the content of an answer cannot be used. -/
def isFormat : Fault → Bool
  | .remote .format .. => true
  | _ => false

/-! ## Sessions -/

def listOperation (status : SessionStatus) : String := "list_sessions[" ++ status.text ++ "]"

def listCall (r : Registry τ) (status : SessionStatus) : Call where
  method := "GET"
  address := r.root ++ "/sessions/status/" ++ status.text
  operation := listOperation status

/-- The call that lists the sessions of a stage where there is no route for it. -/
def listFallbackCall (r : Registry τ) (status : SessionStatus) : Call where
  method := "GET"
  address := r.root ++ "/sessions"
  operation := listOperation status
  params := some [("status", .text status.text)]

def sessions (r : Registry τ) (status : SessionStatus) : Act σ τ (List Session) := do
  let reply ← match ← (r.listCall status).send.attempt with
    | .ok reply => pure reply
    | .error e => if isNotFound e then (r.listFallbackCall status).send else throw e
  let data ← Act.ofExcept (reply.value (listOperation status))
  Act.ofExcept (readItems Session.read (listOperation status) data)

/-- The name of the operation that sets a stage. -/
def updateOperation : String := "update_session_status"

def updateCall (r : Registry τ) (id : String) (status : SessionStatus) : Call where
  method := "PUT"
  address := r.root ++ "/sessions/" ++ id ++ "/status"
  operation := updateOperation
  body := some (.object [("status", .text status.text)])

/-- The session in the answer to an accepted change; an answer that cannot be used tells nothing. -/
def readUpdated (reply : Reply) : Except Fault (Option Session) :=
  let read : Except Fault (Option Session) := do
    let data ← reply.value updateOperation
    if data.isFilled then return some (← readBody Session.read updateOperation data) else return none
  match read with
  | .error e => if isFormat e then .ok none else .error e
  | r => r

def updateStatus (r : Registry τ) (id : String) (status : SessionStatus) : Act σ τ (Option Session) := do
  let reply ← (r.updateCall id status).send
  Act.ofExcept (readUpdated reply)

/-- Sets the stage that a caller names. -/
def updateNamed (r : Registry τ) (id : String) (status : Json) : Act σ τ (Option Session) := do
  let status ← Act.ofExcept (SessionStatus.ofValue status)
  r.updateStatus id status

/-- The circuit of status updates of a session. -/
def updateKey (id : String) : String := "update_session_status_" ++ id

/-- How often a status update is tried. -/
def updateAttempts : Int := 3

/-- Sets the stage of a session, with further attempts. -/
def updateStatusRetrying (r : Registry τ) (id : String) (status : SessionStatus) :
    Act σ τ (Option Session) :=
  r.guard.retry (updateKey id) updateAttempts (r.updateStatus id status)

/-- Sets the stage that a caller names, with further attempts. -/
def updateNamedRetrying (r : Registry τ) (id : String) (status : Json) : Act σ τ (Option Session) :=
  r.guard.retry (updateKey id) updateAttempts (r.updateNamed id status)

/-! ## Records of workspaces -/

def recordsOperation : String := "list_workspace_records"

def records (r : Registry τ) (sessionId : String) : Act σ τ (List WorkspaceRecord) := do
  let call : Call := {
    method := "GET"
    address := r.root ++ "/workspaces"
    operation := recordsOperation
    params := some [("sessionId", .text sessionId)] }
  let data ← call.fetch
  Act.ofExcept (readItems WorkspaceRecord.read recordsOperation data)

/-- The name of the operation that writes a record. -/
def createOperation : String := "create_workspace_record"

def createRecord (r : Registry τ) (request : RecordRequest) : Act σ τ WorkspaceRecord := do
  let call : Call := {
    method := "POST"
    address := r.root ++ "/workspaces"
    operation := createOperation
    body := some request.body }
  let data ← call.fetch
  Act.ofExcept (readBody WorkspaceRecord.read createOperation data)

/-- The circuit of the records of a session. -/
def createKey (sessionId : String) : String := "create_workspace_record_" ++ sessionId

/-- How often writing a record is tried. -/
def createAttempts : Int := 2

/-- Writes a record, with further attempts. -/
def createRecordRetrying (r : Registry τ) (request : RecordRequest) : Act σ τ WorkspaceRecord :=
  r.guard.retry (createKey request.sessionId) createAttempts (r.createRecord request)

def startRecord (r : Registry τ) (id : String) : Act σ τ Unit := do
  let call : Call := {
    method := "POST"
    address := r.root ++ "/workspaces/" ++ id ++ "/start"
    operation := "start_workspace_record" }
  let _ ← call.send

def startKey (id : String) : String := "start_workspace_record_" ++ id

/-- How often starting a record is tried. -/
def startAttempts : Int := 3

/-- Marks a record as started, with further attempts. -/
def startRecordRetrying (r : Registry τ) (id : String) : Act σ τ Unit :=
  r.guard.retry (startKey id) startAttempts (r.startRecord id)

/-! ## Templates -/

def templatesOperation : String := "list_registry_templates"

/-- The id of the default template, or of the first one. -/
def defaultTemplate (r : Registry τ) : Act σ τ (Option String) := do
  let call : Call := {
    method := "GET"
    address := r.root ++ "/workspaces/templates"
    operation := templatesOperation }
  let data ← call.fetch
  let ts ← Act.ofExcept (readItems RecordTemplate.read templatesOperation data)
  return ((ts.find? (·.isDefault)).or ts.head?).map (·.id)

end Registry

end SessionKeeper

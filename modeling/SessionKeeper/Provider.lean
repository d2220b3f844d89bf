import SessionKeeper.Credential
import SessionKeeper.Ownership
import SessionKeeper.Template
import SessionKeeper.Workspace

/-!
# The provider

The provider runs workspaces and offers templates for them.

* `Provider`, `Provider.connect?` : a provider at a base address.
* `Provider.request` : a call with the token in use; when that is refused, it is renewed once and the
  call is sent again.
* `Provider.workspaces` : every workspace, page by page.
* `Provider.find`, `Provider.create`, `Provider.createOrGet`, `Provider.start`, `Provider.stop`,
  `Provider.delete` : single workspaces.
* `Provider.templates`, `Provider.template` : templates; a fixed list stands in when they cannot be had.
-/

namespace SessionKeeper

/-- A provider at an address. -/
structure Provider where
  root : String
  keyring : Keyring

namespace Provider

def connect? (base : String) : Except Fault Provider := do
  let keyring ← Keyring.connect? base
  return ⟨Endpoint.root base Keyring.interfacePath, keyring⟩

variable {σ τ : Type} [Surroundings σ τ]

/-! ## Calls -/

def authorized (c : Call) : Act σ τ Call := do
  let w ← get
  return { c with accept := Keyring.acceptedType, token := w.credential.shown? }

def sendOnce (c : Call) : Act σ τ Reply := do
  let c ← authorized c
  c.send

/-- The refusal of a token together with the failed renewal that it led to. -/
def withCause (e cause : Fault) : Fault :=
  match e with
  | .remote kind m op status issues _ => .remote kind m op status issues (some cause)
  | _ => e

/-- Sends a call. When the token is refused it is renewed, and the call is sent once more. -/
def request (p : Provider) (c : Call) : Act σ τ Reply := do
  match ← (sendOnce c).attempt with
  | .ok r => return r
  | .error e =>
    match e with
    | .remote .unauthorized .. => do
      match ← p.keyring.renew.attempt with
      | .ok _ => sendOnce c
      | .error cause =>
        match cause with
        | .renewal .. => throw (withCause e cause)
        | _ => throw cause
    | _ => throw e

def callTo (p : Provider) (method path operation : String) (body : Option Json) : Call where
  method := method
  address := p.root ++ path
  operation := operation
  body := body

/-- Sends a call and reads the value in the answer. -/
def fetch (p : Provider) (c : Call) : Act σ τ Json := do
  let r ← p.request c
  Act.ofExcept (r.value c.operation)

/-! ## Reading workspaces -/

/-- The fault of an answer whose content cannot be used. -/
def unusable (message operation : String) (issues : Option (List Issue)) : Fault :=
  .remote .format message operation none issues none

/-- A workspace that cannot be read, as a fault of the answer; faults of other kinds stay. -/
def asUnusable (operation : String) (e : Fault) : Fault :=
  let message := operation ++ " returned a malformed workspace: " ++ e.message
  match e with
  | .missingKey _ => unusable message operation none
  | .invalid issues => unusable message operation (some issues)
  | _ => e

def readWorkspace (operation : String) (j : Json) : Except Fault Workspace :=
  match j with
  | .object _ =>
    match Workspace.ofProvider j with
    | .ok w => .ok w
    | .error e => .error (asUnusable operation e)
  | _ => .error (unusable (operation ++ " returned " ++ j.kind) operation none)

/-- A page of the list of workspaces; `cursor` leads to the next page. -/
structure Page where
  items : List Json
  count : Json
  cursor : Json

def listOperation : String := "list_workspaces"

/-- The page in an answer: a list, an object that wraps one, or null for nothing. -/
def readPage (data : Json) : Except Fault Page :=
  match data with
  | .null => .ok ⟨[], .null, .null⟩
  | .list items => .ok ⟨items, .null, .null⟩
  | .object _ =>
    match (data.field "workspaces").orElse (.list []) with
    | .list items => .ok ⟨items, data.field "count", data.field "after_id"⟩
    | _ => .error (unusable (listOperation ++ ": 'workspaces' is not a list") listOperation none)
  | _ => .error (unusable (listOperation ++ " returned " ++ data.kind) listOperation none)

/-- A scalar as a number, where truth values count one and zero. -/
def numberOf? : Json → Option Number
  | .bool b => some (.integer (if b then 1 else 0))
  | .number n => some n
  | _ => none

def isNone : Number → Bool
  | .real x => x.isNaN
  | .integer _ => false

/-- Whether two cursors are the same; as a cursor, what is no number is the same as itself. -/
def sameCursor (a b : Json) : Bool :=
  match a, b with
  | .text s, .text t => s == t
  | _, _ =>
    match numberOf? a, numberOf? b with
    | some m, some n => m.same n || (isNone m && isNone n)
    | _, _ => false

/-- Whether fewer than `count` items were collected. -/
def isShort (collected : Nat) (count : Json) : Except Fault Bool :=
  match count with
  | .null => .ok false
  | _ =>
    match numberOf? count with
    | some n => .ok ((Number.integer collected).less n)
    | none => .error .wrongKind

/-- The cursor of the next page, if there is one to ask for: it is not empty, items are missing, and it
was not used before. -/
def nextCursor? (collected : Nat) (page : Page) (seen : List Json) : Except Fault (Option Json) := do
  if !page.cursor.isFilled then return none
  if ← isShort collected page.count then
    match page.cursor with
    | .list _ => .error .wrongKind
    | .object _ => .error .wrongKind
    | cursor => return if seen.any (sameCursor cursor) then none else some cursor
  else return none

/-- The call for a page; the first one has no cursor. -/
def pageCall (p : Provider) (cursor : Option Json) : Call :=
  { p.callTo "GET" "/workspaces" listOperation none with
    params := cursor.map fun c => [("after_id", c)] }

def page (p : Provider) (cursor : Option Json) : Act σ τ Page := do
  let data ← p.fetch (p.pageCall cursor)
  Act.ofExcept (readPage data)

/-- The items of this page and of the pages after it, `left` more at most. -/
def itemsFrom (p : Provider) (collected : List Json) (last : Page) (seen : List Json) :
    Nat → Act σ τ (List Json)
  | 0 => do
    if last.cursor.isFilled then
      let _ ← Act.ofExcept (isShort collected.length last.count)
    return collected
  | left + 1 => do
    match ← Act.ofExcept (nextCursor? collected.length last seen) with
    | none => return collected
    | some cursor => do
      let next ← p.page (some cursor)
      if next.items.isEmpty then return collected
      else itemsFrom p (collected ++ next.items) next (cursor :: seen) left

/-- How many pages are fetched at most. -/
def maxPages : Nat := 50

def workspaces (p : Provider) : Act σ τ (List Workspace) := do
  let first ← p.page none
  let items ← p.itemsFrom first.items first [] (maxPages - 1)
  Act.ofExcept (items.mapM (readWorkspace listOperation))

/-! ## Single workspaces -/

def workspacesOf (p : Provider) (sessionId : String) : Act σ τ (List Workspace) := do
  let ws ← p.workspaces
  return ws.filter fun w => belongs sessionId w.name w.templateName

def workspace? (p : Provider) (id : String) : Act σ τ (Option Workspace) := do
  let operation := "get_workspace"
  match ← (p.request (p.callTo "GET" ("/workspaces/" ++ id) operation none)).attempt with
  | .ok r => do
    let data ← Act.ofExcept (r.value operation)
    return some (← Act.ofExcept (readWorkspace operation data))
  | .error e =>
    match e with
    | .remote .notFound .. => return none
    | _ => throw e

/-- The first workspace of that name, else the first whose name differs in letter case only. -/
def named? (ws : List Workspace) (name : String) : Option Workspace :=
  (ws.find? (·.name == name)).or (ws.find? fun w => Text.lower w.name == Text.lower name)

def find (p : Provider) (name : String) : Act σ τ (Option Workspace) := do
  return named? (← p.workspaces) name

def createOperation : String := "create_workspace"

/-- The body of a request for a new workspace. -/
def createBody (name templateId : String) : Json :=
  .object [("name", .text name), ("template_id", .text templateId), ("rich_parameter_values", .list [])]

/-- The route for new workspaces. -/
def createPath : String := "/users/me/workspaces"

/-- The route for new workspaces of deployments that lack the other one. -/
def createFallbackPath : String := "/organizations/default/members/me/workspaces"

/-- Whether the fault is that there is no such route. -/
def isNoRoute : Fault → Bool
  | .remote .notFound .. => true
  | .remote kind _ _ status _ _ => kind.isClient && status == some 405
  | _ => false

def create (p : Provider) (name templateId : String) : Act σ τ Workspace := do
  let call (path : String) : Call := p.callTo "POST" path createOperation (some (createBody name templateId))
  let reply ← match ← (p.request (call createPath)).attempt with
    | .ok r => pure r
    | .error e => if isNoRoute e then p.request (call createFallbackPath) else throw e
  let data ← Act.ofExcept (reply.value createOperation)
  Act.ofExcept (readWorkspace createOperation data)

/-- Creates a workspace, or finds the one that has the name already. -/
def createOrGet (p : Provider) (name templateId : String) : Act σ τ Workspace := do
  match ← (p.create name templateId).attempt with
  | .ok w => return w
  | .error e =>
    match e with
    | .remote .conflict .. => do
      match ← p.find name with
      | some w => return w
      | none => throw e
    | _ => throw e

def transitionCall (p : Provider) (id word : String) : Call :=
  p.callTo "POST" ("/workspaces/" ++ id ++ "/builds") (word ++ "_workspace")
    (some (.object [("transition", .text word)]))

/-- A change of a workspace. -/
def transition (p : Provider) (id word : String) : Act σ τ Unit := do
  let _ ← p.request (p.transitionCall id word)

def start (p : Provider) (id : String) : Act σ τ Unit := p.transition id "start"

def stop (p : Provider) (id : String) : Act σ τ Unit := p.transition id "stop"

/-- Deletes a workspace; tells whether there was one. -/
def delete (p : Provider) (id : String) : Act σ τ Bool := do
  match ← (p.request (p.callTo "DELETE" ("/workspaces/" ++ id) "delete_workspace" none)).attempt with
  | .ok _ => return true
  | .error e =>
    match e with
    | .remote .notFound .. => return false
    | _ => throw e

/-! ## Templates -/

def templatesOperation : String := "list_templates"

def readTemplates (data : Json) : Except Fault (List Template) :=
  match data with
  | .list items => items.mapM Template.ofProvider
  | _ => .error (unusable (templatesOperation ++ " did not return a list") templatesOperation none)

/-- Whether the fixed templates stand in after the fault. -/
def isCatalogueFault : Fault → Bool
  | .remote .. | .noParts | .missingKey _ | .invalid _ => true
  | _ => false

/-- The templates of the provider, or the fixed ones when they cannot be had. -/
def templates (p : Provider) : Act σ τ (List Template) := do
  let fetched : Act σ τ (List Template) := do
    let data ← p.fetch (p.callTo "GET" "/templates" templatesOperation none)
    Act.ofExcept (readTemplates data)
  match ← fetched.attempt with
  | .ok ts => return ts
  | .error e => if isCatalogueFault e then return Template.fallback else throw e

def template? (p : Provider) (id : String) : Act σ τ (Option Template) := do
  return (← p.templates).find? (·.id == id)

end Provider

end SessionKeeper

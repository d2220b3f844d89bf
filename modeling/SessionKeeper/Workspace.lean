import SessionKeeper.Field

/-!
# Workspaces

* `Workspace` : a workspace as the provider reports it.
* `Workspace.ofProvider` : a workspace from a provider reply.
-/

namespace SessionKeeper

/-- A workspace as the provider reports it. -/
structure Workspace where
  id : String
  name : String
  status : String
  health : String
  templateId : String
  templateName : String
  templateDisplayName : String
  ownerName : String
  createdAt : Option Moment
  updatedAt : Option Moment
  lastUsedAt : Option Moment
deriving Inhabited

namespace Workspace

/-- What is reported where nothing is known. -/
def unknownWord : Json := .text "unknown"

/-- The first of the resources of a build, if there is one. -/
def firstResource? : Json → Except Fault (Option Json)
  | .list items => .ok items.head?
  | .text s => .ok (s.toList.head?.map fun c => .text (String.ofList [c]))
  | .object _ => .error (.missingKey (.index 0))
  | _ => .error .wrongKind

def healthOf (build : Fields) : Except Fault Json := do
  let resources := ((Json.lookup "resources" build).getD .null)
  if resources.isFilled then
    match ← firstResource? resources with
    | some (.object fs) => .ok (((Json.lookup "health" fs).getD .null).orElse unknownWord)
    | _ => .ok unknownWord
  else .ok unknownWord

def ofParts (id : String) (fs : Fields) (status health : Json) : Checked Workspace :=
  let get (key : String) : Json := (Json.lookup key fs).getD .null
  let named {α : Type} (key : String) (read : Json → Checked α) (j : Json) : Checked α :=
    (read j).under (.name key)
  let templateName := (get "template_name").orElse (.text "")
  mk id ((get "name").orElse (.text "")).plain
    <$> named "status" Field.text status
    <*> named "health" Field.text health
    <*> named "template_id" Field.text ((get "template_id").orElse (.text ""))
    <*> named "template_name" Field.text templateName
    <*> named "template_display_name" Field.text ((get "template_display_name").orElse templateName)
    <*> named "owner_name" Field.text ((get "owner_name").orElse (.text ""))
    <*> named "created_at" (Field.orNull Field.moment) (get "created_at")
    <*> named "updated_at" (Field.orNull Field.moment) (get "updated_at")
    <*> named "last_used_at" (Field.orNull Field.moment) (get "last_used_at")

/-- A workspace from a provider reply. Its status is that of the latest build, its health that of the
first resource of that build. -/
def ofProvider : Json → Except Fault Workspace
  | .object fs => do
    let build ← match ((Json.lookup "latest_build" fs).getD .null).orElse (.object []) with
      | .object build => .ok build
      | _ => .error .noParts
    let health ← healthOf build
    match Json.lookup "id" fs with
    | none => .error (.missingKey (.name "id"))
    | some id =>
      (ofParts id.plain fs (((Json.lookup "status" build).getD .null).orElse unknownWord)
        health).toExcept .invalid
  | _ => .error .noParts

def json (w : Workspace) : Json :=
  .object [("id", .text w.id), ("name", .text w.name), ("status", .text w.status),
    ("health", .text w.health), ("template_id", .text w.templateId),
    ("template_name", .text w.templateName),
    ("template_display_name", .text w.templateDisplayName), ("owner_name", .text w.ownerName),
    ("created_at", .orNull .ofMoment w.createdAt), ("updated_at", .orNull .ofMoment w.updatedAt),
    ("last_used_at", .orNull .ofMoment w.lastUsedAt)]

end Workspace

end SessionKeeper

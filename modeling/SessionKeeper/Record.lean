import SessionKeeper.Field

/-!
# Records of the registry

* `WorkspaceRecord` : what the registry knows of a workspace.
* `RecordTemplate` : a template as the registry lists it.
* `RecordRequest` : the request to write a workspace into the registry, and its body.
-/

namespace SessionKeeper

/-- What the registry knows of a workspace. -/
structure WorkspaceRecord where
  id : String
  name : String
  sessionId : String
  status : String
  workspaceId : Option String
  url : Option String
  createdAt : Option Moment
  updatedAt : Option Moment
deriving Inhabited

/-- A workspace record from the fields of a registry reply. -/
def WorkspaceRecord.ofFields (fs : Fields) : Checked WorkspaceRecord :=
  mk <$> fs.required ["id"] Field.text
    <*> fs.optional ["name"] "" Field.text
    <*> fs.optional ["sessionId", "session_id"] "" Field.text
    <*> fs.optional ["status"] "unknown" Field.text
    <*> fs.optional ["coderWorkspaceId", "coder_workspace_id"] none (Field.orNull Field.text)
    <*> fs.optional ["workspaceUrl", "workspace_url"] none (Field.orNull Field.text)
    <*> fs.optional ["createdAt", "created_at"] none (Field.orNull Field.moment)
    <*> fs.optional ["updatedAt", "updated_at"] none (Field.orNull Field.moment)

def WorkspaceRecord.read : Json → Checked WorkspaceRecord := Json.checkFields ofFields

def WorkspaceRecord.json (style : KeyStyle) (r : WorkspaceRecord) : Json :=
  .object [("id", .text r.id), ("name", .text r.name),
    (style.pick "sessionId" "session_id", .text r.sessionId), ("status", .text r.status),
    (style.pick "coderWorkspaceId" "coder_workspace_id", .orNull .text r.workspaceId),
    (style.pick "workspaceUrl" "workspace_url", .orNull .text r.url),
    (style.pick "createdAt" "created_at", .orNull .ofMoment r.createdAt),
    (style.pick "updatedAt" "updated_at", .orNull .ofMoment r.updatedAt)]

/-- A template as the registry lists it. -/
structure RecordTemplate where
  id : String
  name : String
  description : Option String
  version : Option String
  icon : Option String
  isDefault : Bool
deriving Inhabited

/-- A listed template from the fields of a registry reply. -/
def RecordTemplate.ofFields (fs : Fields) : Checked RecordTemplate :=
  mk <$> fs.required ["id"] Field.text
    <*> fs.optional ["name"] "" Field.text
    <*> fs.optional ["description"] none (Field.orNull Field.text)
    <*> fs.optional ["version"] none (Field.orNull Field.text)
    <*> fs.optional ["icon"] none (Field.orNull Field.text)
    <*> fs.optional ["isDefault", "is_default"] false Field.flag

/-- A listed template from a registry reply. -/
def RecordTemplate.read : Json → Checked RecordTemplate := Json.checkFields ofFields

/-- A listed template as a structured value. -/
def RecordTemplate.json (style : KeyStyle) (t : RecordTemplate) : Json :=
  .object [("id", .text t.id), ("name", .text t.name), ("description", .orNull .text t.description),
    ("version", .orNull .text t.version), ("icon", .orNull .text t.icon),
    (style.pick "isDefault" "is_default", .bool t.isDefault)]

/-- The request to write a workspace into the registry. -/
structure RecordRequest where
  name : String
  sessionId : String
  templateId : Option String
  automaticUpdates : Bool
  ttl : Int
deriving Inhabited

namespace RecordRequest

def plainTtl : Int := 3600000

def ofFields (fs : Fields) : Checked RecordRequest :=
  mk <$> fs.required ["name"] Field.text
    <*> fs.required ["sessionId", "session_id"] Field.text
    <*> fs.optional ["templateId", "template_id"] none (Field.orNull Field.text)
    <*> fs.optional ["automaticUpdates", "automatic_updates"] true Field.flag
    <*> fs.optional ["ttlMs", "ttl_ms"] plainTtl Field.integer

def read : Json → Checked RecordRequest := Json.checkFields ofFields

def json (style : KeyStyle) (r : RecordRequest) : Json :=
  .object [("name", .text r.name), (style.pick "sessionId" "session_id", .text r.sessionId),
    (style.pick "templateId" "template_id", .orNull .text r.templateId),
    (style.pick "automaticUpdates" "automatic_updates", .bool r.automaticUpdates),
    (style.pick "ttlMs" "ttl_ms", .ofInt r.ttl)]

def body (r : RecordRequest) : Json := r.json .camel

end RecordRequest

end SessionKeeper

import SessionKeeper.Field

/-!
# Sessions

* `SessionStatus` : the stages of a session.
* `Session` : a session as the registry reports it.
* `Session.read` : a session from a registry reply.
* `Session.json` : a session as a structured value.
-/

namespace SessionKeeper

/-- The stages of a session. -/
inductive SessionStatus where
  | pending
  | active
  | inactive
  | completed
  | failed
deriving DecidableEq, Inhabited

namespace SessionStatus

/-- The word of a stage. -/
def text : SessionStatus → String
  | pending => "PENDING"
  | active => "ACTIVE"
  | inactive => "INACTIVE"
  | completed => "COMPLETED"
  | failed => "FAILED"

def all : List SessionStatus := [pending, active, inactive, completed, failed]

/-- The stage of that word. -/
def ofText? (s : String) : Option SessionStatus := all.find? (·.text == s)

/-- The stage that a caller names; any other value is refused. -/
def ofValue (j : Json) : Except Fault SessionStatus :=
  let refused := Fault.badValue (String.ofList (j.inner ++ " is not a valid SessionStatus".toList)) none
  match j with
  | .text s => (ofText? s).elim (.error refused) .ok
  | _ => .error refused

/-- The stage of a word in letters of any case. -/
def ofWord (s : String) : Checked SessionStatus :=
  match ofText? (Text.upper s) with
  | some st => .ok st
  | none => .problem .notMember

/-- The stage in a registry reply. -/
def read : Json → Checked SessionStatus
  | .text s => Field.ofText ofWord s
  | _ => .problem .notMember

end SessionStatus

/-- A session as the registry reports it. -/
structure Session where
  id : String
  name : String
  status : SessionStatus
  tags : List String
  createdAt : Option Moment
  updatedAt : Option Moment
deriving Inhabited

namespace Session

/-- Tags; null means none. -/
def readTags : Json → Checked (List String)
  | .null => .ok []
  | j => Field.texts j

def ofFields (fs : Fields) : Checked Session :=
  mk <$> fs.required ["id"] Field.text
    <*> fs.optional ["name"] "" Field.text
    <*> fs.required ["status"] SessionStatus.read
    <*> fs.optional ["tags"] [] readTags
    <*> fs.optional ["createdAt", "created_at"] none (Field.orNull Field.moment)
    <*> fs.optional ["updatedAt", "updated_at"] none (Field.orNull Field.moment)

def read : Json → Checked Session := Json.checkFields ofFields

def json (style : KeyStyle) (s : Session) : Json :=
  .object [("id", .text s.id), ("name", .text s.name), ("status", .text s.status.text),
    ("tags", .list (s.tags.map .text)),
    (style.pick "createdAt" "created_at", .orNull .ofMoment s.createdAt),
    (style.pick "updatedAt" "updated_at", .orNull .ofMoment s.updatedAt)]

def circuitKey (s : Session) : String := "session_" ++ s.id

end Session

end SessionKeeper

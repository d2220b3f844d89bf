import SessionKeeper.Settings
import SessionKeeper.Settings.Folder
import SessionKeeper.Yaml.Document

/-!
# Where settings come from

A setting is taken from its environment variable if that is not empty, else from the file, else it has
its default.

* `Settings.sources` : the variable of each setting.
* `Settings.chosen`, `Settings.layered` : the chosen values.
* `Settings.fileChoices` : the values in a file.
* `Settings.load` : the settings of an environment.
-/

namespace SessionKeeper

namespace Settings

/-! ## Layers -/

/-- The names of the settings and of their variables. -/
def sources : List (String × String) := [
  ("registry_base_url", "EXECUTOR_REGISTRY_BASE_URL"),
  ("provider_base_url", "EXECUTOR_PROVIDER_BASE_URL"),
  ("provider_token", "EXECUTOR_PROVIDER_TOKEN"),
  ("http_timeout", "EXECUTOR_HTTP_TIMEOUT"),
  ("new_session_interval", "EXECUTOR_NEW_SESSION_INTERVAL"),
  ("active_session_interval", "EXECUTOR_ACTIVE_SESSION_INTERVAL"),
  ("inactive_session_interval", "EXECUTOR_INACTIVE_SESSION_INTERVAL"),
  ("token_refresh_interval", "EXECUTOR_TOKEN_REFRESH_INTERVAL"),
  ("circuit_failure_threshold", "EXECUTOR_CIRCUIT_FAILURE_THRESHOLD"),
  ("circuit_reset_timeout", "EXECUTOR_CIRCUIT_RESET_TIMEOUT"),
  ("max_backoff", "EXECUTOR_MAX_BACKOFF"),
  ("template_keyword", "EXECUTOR_TEMPLATE_KEYWORD"),
  ("mirror_workspace_records", "EXECUTOR_MIRROR_WORKSPACE_RECORDS"),
  ("scheduler_enabled", "EXECUTOR_SCHEDULER_ENABLED"),
  ("scheduler_workers", "EXECUTOR_SCHEDULER_WORKERS"),
  ("log_level", "EXECUTOR_LOG_LEVEL"),
  ("cors_origins", "EXECUTOR_CORS_ORIGINS")]

def fileVariable : String := "EXECUTOR_CONFIG_FILE"

end Settings

/-- The variables of a process. -/
abbrev Environment := List (String × String)

namespace Environment

/-- The text of a variable, if it is set and not empty. -/
def filled? (env : Environment) (name : String) : Option String :=
  ((env.find? (·.1 == name)).map (·.2)).filter (!·.isEmpty)

end Environment

namespace Settings

/-- The value chosen for a setting, if there is one. -/
def chosen (env : Environment) (file : Choices) (name source : String) : Option Value :=
  match env.filled? source with
  | some s => some (.plain (.text s))
  | none => Json.lookup name file

/-- The chosen values of all settings that have one. -/
def layered (env : Environment) (file : Choices) : Choices :=
  sources.filterMap fun e => (chosen env file e.1 e.2).map fun v => (e.1, v)

/-- The wording for values that cannot be used. -/
def invalidMessage : String := "invalid executor configuration: " ++ Fault.issuesMark

def ofLayers (env : Environment) (file : Choices) : Except Fault Settings :=
  (ofChoices (layered env file)).toExcept fun is => .badValue invalidMessage (some is)

end Settings

/-! ## Files -/

namespace Settings

/-- The name of the part of a file that holds the settings. -/
def sectionName : String := "executor"

/-- The value of a scalar as it counts for a setting. -/
def Value.ofAtom : Yaml.Atom → Value
  | .null => plain .null
  | .flag b => plain (.bool b)
  | .number n => plain (.number n)
  | .text s => plain (.text s)
  | .octets bs => octets bs
  | .stamp _ => other

/-- The value of an item of a list as it counts for a setting. -/
def Value.ofItem (d : Yaml.Document) (id : Nat) : Value :=
  match d.view id with
  | .atom a => ofAtom a
  | _ => other

/-- The value of a node as it counts for a setting; the members of a set are a list. -/
def Value.ofNode (d : Yaml.Document) (id : Nat) : Value :=
  match d.view id with
  | .atom a => ofAtom a
  | .sequence items => several (items.map (ofItem d))
  | .set members => several (members.map (ofItem d))
  | .pairs count => several (List.replicate count other)
  | .mapping _ => other

/-- The values of a mapping by their names, which must all be text. -/
def choicesOf (d : Yaml.Document) (entries : List (Nat × Nat)) : Except Fault Choices :=
  entries.foldlM (fun fs e =>
    match d.keyText? e.1 with
    | some key => .ok (Json.put fs key (Value.ofNode d e.2))
    | none => .error .wrongKind) []

/-- The wording for a file that holds something else. -/
def mappingMessage (path : String) : String := path ++ " must contain a mapping"

/-- The wording for a part that is something else. -/
def sectionMessage (path : String) : String := path ++ ": '" ++ sectionName ++ "' must be a mapping"

/-- The entries of the settings in a document: its part for the keeper, or all of it. -/
def sectionOf (path : String) (d : Yaml.Document) : Except Fault (List (Nat × Nat)) :=
  if !d.isFilled d.root then .ok []
  else
    match d.entries? d.root with
    | none => .error (.badValue (mappingMessage path) none)
    | some es =>
      match d.entry? es sectionName with
      | none => .ok es
      | some id =>
        match d.entries? id with
        | some part => .ok part
        | none => .error (.badValue (sectionMessage path) none)

/-- The values in the text of a file. -/
def choicesOfText (path : String) (cs : List Char) : Except Fault Choices := do
  match ← Yaml.Document.read cs with
  | none => return []
  | some d => choicesOf d (← sectionOf path d)

def fileChoices (files : Folder) (path : String) : Except Fault Choices := do
  let p := FilePath.ofText path
  let octets ← files.contents (← p.atHome)
  match Text.decodeUtf8? false octets with
  | some cs => choicesOfText p.text cs
  | none => .error .notText

def load (files : Folder) (env : Environment) : Except Fault Settings := do
  let file ← match env.filled? fileVariable with
    | some path => fileChoices files path
    | none => .ok []
  ofLayers env file

end Settings

end SessionKeeper

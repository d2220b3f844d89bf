import SessionKeeper.Settings.Value
import SessionKeeper.Text.Casing
import SessionKeeper.Text.Pieces

/-!
# Settings

* `Settings` : the settings of the keeper.
* `Settings.baseUrl`, `Settings.token`, `Settings.above`, `Settings.atLeastOne`, `Settings.level`,
  `Settings.origins` : the rules of single settings.
* `Settings.ofChoices` : the settings from chosen values; a setting that was not chosen has its default.
-/

namespace SessionKeeper

/-- The settings of the keeper. -/
structure Settings where
  registryBaseUrl : String
  providerBaseUrl : String
  providerToken : Option String
  httpTimeout : Float
  newSessionInterval : Float
  activeSessionInterval : Float
  inactiveSessionInterval : Float
  tokenRefreshInterval : Float
  circuitFailureThreshold : Int
  circuitResetTimeout : Float
  maxBackoff : Float
  templateKeyword : String
  mirrorWorkspaceRecords : Bool
  schedulerEnabled : Bool
  schedulerWorkers : Int
  logLevel : String
  corsOrigins : List String

namespace Settings

open Text

/-! ## Rules -/

/-- Applies a further rule to a value that was read. -/
def andThen {α β : Type} (c : Checked α) (rule : α → Checked β) : Checked β :=
  match c with
  | .ok a => rule a
  | .bad is => .bad is

/-- The wording for a base address that has no scheme of the web. -/
def baseUrlMessage : String := "Value error, base url must include scheme and host"

/-- Whether the text begins with a scheme of the web. -/
def hasScheme (cs : List Char) : Bool :=
  "http://".toList.isPrefixOf cs || "https://".toList.isPrefixOf cs

/-- A base address, without white space around it and without slashes at its end. -/
def normalUrl (s : String) : Checked String :=
  let cs := trimBy isBlank s.toList
  if hasScheme cs then .ok (String.ofList (trimEnd (· = '/') cs)) else .problem (.refused baseUrlMessage)

def baseUrl (v : Value) : Checked String := andThen v.text normalUrl

/-- A token without white space around it; a blank one is none. -/
def normalToken (s : String) : Option String :=
  let s := strip s
  if s.isEmpty then none else some s

def token (v : Value) : Checked (Option String) := v.textOrNull.map fun t => t.bind normalToken

/-- A number greater than zero. -/
def above (v : Value) : Checked Float :=
  andThen v.real fun x => if 0.0 < x then .ok x else .problem .notAbove

/-- An integer from one on. -/
def atLeastOne (v : Value) : Checked Int :=
  andThen v.integer fun i => if 1 ≤ i then .ok i else .problem .belowLeast

def defaultLevel : String := "INFO"

/-- The name of a level in capital letters; a blank one is the default. -/
def normalLevel (s : String) : String :=
  let name := upper (strip s)
  if name.isEmpty then defaultLevel else name

def level (v : Value) : Checked String := v.text.map normalLevel

/-- The items of a text that are not blank, without white space around them. -/
def splitItems (s : String) : List String :=
  ((splitBy (· = ',') s.toList).map fun cs => String.ofList (trimBy isBlank cs)).filter (!·.isEmpty)

/-- A list of origins, or a text with commas between them. -/
def origins : Value → Checked (List String)
  | .plain (.text s) => .ok (splitItems s)
  | v => v.texts

/-! ## All settings -/

def ofChoices (fs : Choices) : Checked Settings :=
  mk <$> fs.optional ["registry_base_url"] "http://localhost:8080" baseUrl
    <*> fs.optional ["provider_base_url"] "http://localhost:3000" baseUrl
    <*> fs.optional ["provider_token"] none token
    <*> fs.optional ["http_timeout"] 30.0 above
    <*> fs.optional ["new_session_interval"] 30.0 above
    <*> fs.optional ["active_session_interval"] 60.0 above
    <*> fs.optional ["inactive_session_interval"] 90.0 above
    <*> fs.optional ["token_refresh_interval"] 86400.0 above
    <*> fs.optional ["circuit_failure_threshold"] 5 atLeastOne
    <*> fs.optional ["circuit_reset_timeout"] 60.0 above
    <*> fs.optional ["max_backoff"] 30.0 above
    <*> fs.optional ["template_keyword"] "keruta" Value.text
    <*> fs.optional ["mirror_workspace_records"] true Value.flag
    <*> fs.optional ["scheduler_enabled"] true Value.flag
    <*> fs.optional ["scheduler_workers"] 4 atLeastOne
    <*> fs.optional ["log_level"] defaultLevel level
    <*> fs.optional ["cors_origins"] [] origins

def read : Json → Checked Settings :=
  Json.checkFields fun fs => ofChoices (fs.map fun f => (f.1, .ofJson f.2))

def json (s : Settings) : Json :=
  let real (x : Float) : Json := .number (.real x)
  .object [
    ("registry_base_url", .text s.registryBaseUrl),
    ("provider_base_url", .text s.providerBaseUrl),
    ("provider_token", .orNull .text s.providerToken),
    ("http_timeout", real s.httpTimeout),
    ("new_session_interval", real s.newSessionInterval),
    ("active_session_interval", real s.activeSessionInterval),
    ("inactive_session_interval", real s.inactiveSessionInterval),
    ("token_refresh_interval", real s.tokenRefreshInterval),
    ("circuit_failure_threshold", Json.ofInt s.circuitFailureThreshold),
    ("circuit_reset_timeout", real s.circuitResetTimeout),
    ("max_backoff", real s.maxBackoff),
    ("template_keyword", .text s.templateKeyword),
    ("mirror_workspace_records", .bool s.mirrorWorkspaceRecords),
    ("scheduler_enabled", .bool s.schedulerEnabled),
    ("scheduler_workers", Json.ofInt s.schedulerWorkers),
    ("log_level", .text s.logLevel),
    ("cors_origins", .list (s.corsOrigins.map .text))]

end Settings

end SessionKeeper

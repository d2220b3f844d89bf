import SessionKeeper.Service.Site

/-!
# Requests to the service

* `Route` : what can be asked for.
* `Visit`, `Answer` : a request and its answer.
* `Web.answer` : the answer to a request.
* `Origins` : which pages of other hosts may see answers.
-/

namespace SessionKeeper

/-! ## Routes -/

/-- What can be asked for. -/
inductive Route where
  | landing
  | health
  | reports
  | runPass (name : String)
  | circuits
  | templates
  | template (id : String)
deriving DecidableEq

namespace Route

def method : Route → String
  | runPass _ => "POST"
  | _ => "GET"

def ofParts : List String → Option Route
  | ["", ""] => some landing
  | ["", "api", "health"] => some health
  | ["", "api", "reconciler", "passes"] => some reports
  | ["", "api", "reconciler", "passes", name, "run"] => if name.isEmpty then none else some (runPass name)
  | ["", "api", "reconciler", "circuits"] => some circuits
  | ["", "api", "templates"] => some templates
  | ["", "api", "templates", id] => if id.isEmpty then none else some (template id)
  | _ => none

def partsOf (path : List Char) : List String := (Text.splitBy (· = '/') path).map String.ofList

/-- The route of a path; one break of a line at its end does not count. -/
def ofPath? (path : List Char) : Option Route :=
  (ofParts (partsOf path)).or
    (if path.getLast? = some '\n' then ofParts (partsOf path.dropLast) else none)

/-- The path with one slash more at its end, or with none. -/
def otherPath (path : List Char) : List Char :=
  if path.getLast? = some '/' then Text.trimEnd (· = '/') path else path ++ ['/']

/-- The route that a path would have with another end. -/
def leadsTo (path : List Char) : Bool := path ≠ ['/'] && (ofPath? (otherPath path)).isSome

end Route

/-! ## Requests and answers -/

/-- A request: its method, its path as it is written, and its head. -/
structure Visit where
  method : String
  path : String
  head : List (String × String)

/-- A request with a method that is written in any letter case. -/
def Visit.ofWritten (method path : String) (head : List (String × String)) : Visit :=
  ⟨Text.upper method, path, head⟩

def Visit.headField? (v : Visit) (name : String) : Option String :=
  (v.head.find? fun f => String.ofList (f.1.toList.map Char.toLower) == name).map (·.2)

/-- What an answer holds. -/
inductive Content where
  | value (j : Json)
  | text (s : String)

/-- An answer; `origin` is the page that may see it. -/
structure Answer where
  status : Nat
  content : Content
  origin : Option String

namespace Answer

def ofValue (status : Nat) (j : Json) : Answer := ⟨status, .value j, none⟩

def detail (status : Nat) (message : String) : Answer :=
  .ofValue status (.object [("detail", .text message)])

def failed : Answer := ⟨500, .text "Internal Server Error", none⟩

/-- The answer as it is sent: to a request for the head alone, without content. -/
def sentFor (method : String) (a : Answer) : Answer :=
  if method = "HEAD" then { a with content := .text "" } else a

end Answer

/-! ## Pages of other hosts -/

namespace Origins

/-- Whether pages from an origin may see answers. -/
def admits (allowed : List String) (origin : String) : Bool :=
  allowed.contains "*" || allowed.contains origin

/-- The methods that pages may ask for. -/
def methods : List String := ["DELETE", "GET", "HEAD", "OPTIONS", "PATCH", "POST", "PUT"]

/-- The answer to a page that asks beforehand what it may do; `fromPublic` asks for a network that is
not open to all, which is never granted. -/
def preflight (allowed : List String) (origin method : String) (fromPublic : Bool) : Answer :=
  let isAdmitted := admits allowed origin
  let failures := (if isAdmitted then [] else ["origin"]) ++
    (if methods.contains method then [] else ["method"]) ++
    (if fromPublic then ["private-network"] else [])
  let shown := if isAdmitted then some origin else none
  if failures.isEmpty then ⟨200, .text "OK", shown⟩
  else ⟨400, .text ("Disallowed CORS " ++ ", ".intercalate failures), shown⟩

/-- The answer as a page from an origin may see it. -/
def mark (allowed : List String) (origin : Option String) (a : Answer) : Answer :=
  { a with origin := origin.filter (admits allowed) }

end Origins

/-! ## Answers -/

namespace Web

variable {σ τ : Type} [Timeline τ] [Surroundings σ τ]

def landing : Json :=
  .object [("message", .text "Session Executor"), ("docs", .text "/docs"), ("health", .text "/api/health")]

/-- Whether the timetable of the installed service runs. -/
def isRunning (i : Nat) : SiteAct σ τ Bool := do return (← Site.runtime i).upkeep.timetable.isRunning

def reportsOf (d : Desk) : Json := .object (d.reports.map fun r => (r.pass.text, r.json))

def noTemplateMessage : String := "template not found"

/-- The wording for a pass that runs already. -/
def busyMessage (name : String) : String := "pass already running: " ++ name

def runPass (name : String) : SiteAct σ τ Answer := do
  match Pass.ofText? name with
  | none => return .detail 404 (Pass.unknownMessage name)
  | some p => do
    let r ← Site.act (← Site.current) (·.runPass p)
    if r.aborted = some Report.busyMessage then return .detail 409 (busyMessage name)
    return .ofValue 200 r.json

def reach (time : τ → Json) : Route → SiteAct σ τ Answer
  | .landing => return .ofValue 200 landing
  | .health => do
    let running ← isRunning (← Site.current)
    return .ofValue 200 (.object [("status", .text "ok"), ("scheduler", .bool running)])
  | .reports => do
    let i ← Site.current
    let running ← isRunning i
    let passes := reportsOf (← Site.runtime i).upkeep.desk
    return .ofValue 200 (.object [("scheduler_running", .bool running), ("passes", passes)])
  | .runPass name => runPass name
  | .circuits => do
    let r ← Site.runtime (← Site.current)
    return .ofValue 200 (.object [("items", r.circuits.json time)])
  | .templates => do
    let ts ← Site.act (← Site.current) fun s => Service.duty s.provider.templates
    return .ofValue 200 (.object [("items", .list (ts.map Template.json))])
  | .template id => do
    match ← Site.act (← Site.current) fun s => Service.duty (s.provider.template? id) with
    | some t => return .ofValue 200 t.json
    | none => return .detail 404 noTemplateMessage

def host : String := "http://testserver/"

/-- The path of a request, with its escapes resolved; they are resolved twice. -/
def pathOf (written : String) : Except Fault (List Char) := do
  let u ← Url.parse (host.toList ++ written.toList.dropWhile (· = '/'))
  return resolve (resolve u.rootedPath)
where
  /-- A text with its escapes resolved. -/
  resolve (cs : List Char) : List Char := Text.decodeUtf8Lossy (Url.unescape cs)

/-- What the address that a request is led to may hold as it is. -/
def inLocation (c : Char) : Bool := ":/%#?=@[]!$&'()*+,;".toList.contains c

/-- The answer at a path, or the path that the request is led to. -/
def answerAt (time : τ → Json) (method : String) (path : List Char) :
    SiteAct σ τ (Answer ⊕ List Char) := do
  match Route.ofPath? path with
  | some route =>
    if route.method = method then return .inl (← reach time route)
    return .inl (.detail 405 "Method Not Allowed")
  | none =>
    if Route.leadsTo path then return .inr (Route.otherPath path)
    return .inl (.detail 404 "Not Found")

/-- How often a request is led elsewhere at most. -/
def maxRedirects : Nat := 20

/-- The answer to a request, which may be led elsewhere some times. -/
def follow (time : τ → Json) (method : String) : Nat → String → SiteAct σ τ Answer
  | 0, _ => return .detail 404 "Not Found"
  | n + 1, written => do
    let path ← ExceptT.mk (pure (pathOf written))
    match ← answerAt time method path with
    | .inl a => return a
    | .inr other => follow time method n (String.ofList (Url.escape inLocation other))

/-- The answer to a request; nothing when it fails inside. -/
def inside? (time : τ → Json) (v : Visit) : SiteAct σ τ (Option Answer) := do
  let _ ← ExceptT.mk (pure (pathOf v.path))
  tryCatch (some <$> follow time v.method maxRedirects v.path) fun _ => return none

/-- The method that a page asks about beforehand. -/
def askedMethod? (allowed : List String) (v : Visit) : Option String :=
  if allowed.isEmpty || v.method ≠ "OPTIONS" then none
  else v.headField? "access-control-request-method"

/-- The answer to a request, with the rules for pages of other hosts. -/
def answer (time : τ → Json) (settings : Settings) (v : Visit) : SiteAct σ τ Answer := do
  let allowed := settings.corsOrigins
  let origin := v.headField? "origin"
  match origin, askedMethod? allowed v with
  | some page, some method =>
    return Origins.preflight allowed page method
      (v.headField? "access-control-request-private-network").isSome
  | _, _ => do
    match ← inside? time v with
    | some a => return (Origins.mark allowed origin a).sentFor v.method
    | none => return Answer.failed.sentFor v.method

end Web

end SessionKeeper

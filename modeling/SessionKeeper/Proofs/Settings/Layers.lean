import Mathlib.Data.List.Nodup
import SessionKeeper.Proofs.Settings.Issues
import SessionKeeper.Settings.Layers

/-!
# Settings that come from layers

Each setting is decided by itself: by its variable if that is not empty, else by the file if it has the name of the
setting, else by its default.

* `Setting`, `Settings.all` : the settings one by one.
* `Settings.ofChoices_eq_ok_iff`, `Settings.issues_ofChoices` : settings are read one by one.
* `Json.lookup_put`, `Settings.lookup_layered`, `Settings.lookup_choicesOf` : what the layers hold under a name.
* `Settings.Consults` : what an environment finds in its file.
* `Settings.LoadsBy`, `Settings.load_by_layers` : what is loaded.
-/

namespace SessionKeeper

open Yaml

/-! ## The settings -/

/-- One of the settings: its name and its variable, its default, how it is read, where a value of it cannot be read,
and which one it is. -/
structure Setting where
  {kind : Type}
  name : String
  source : String
  default : kind
  read : Settings.Value → Checked kind
  faulty : Settings.Value → List (List Place)
  get : Settings → kind

namespace Settings

def faultyWhole {α : Type} (read : Value → Checked α) (v : Value) : List (List Place) :=
  if (read v).isOk then [] else [[]]

def single {α : Type} (name source : String) (default : α) (read : Value → Checked α) (get : Settings → α) : Setting :=
  ⟨name, source, default, read, faultyWhole read, get⟩

def all : List Setting := [
  single "registry_base_url" "EXECUTOR_REGISTRY_BASE_URL" "http://localhost:8080" baseUrl registryBaseUrl,
  single "provider_base_url" "EXECUTOR_PROVIDER_BASE_URL" "http://localhost:3000" baseUrl providerBaseUrl,
  single "provider_token" "EXECUTOR_PROVIDER_TOKEN" none token providerToken,
  single "http_timeout" "EXECUTOR_HTTP_TIMEOUT" 30.0 above httpTimeout,
  single "new_session_interval" "EXECUTOR_NEW_SESSION_INTERVAL" 30.0 above newSessionInterval,
  single "active_session_interval" "EXECUTOR_ACTIVE_SESSION_INTERVAL" 60.0 above activeSessionInterval,
  single "inactive_session_interval" "EXECUTOR_INACTIVE_SESSION_INTERVAL" 90.0 above inactiveSessionInterval,
  single "token_refresh_interval" "EXECUTOR_TOKEN_REFRESH_INTERVAL" 86400.0 above tokenRefreshInterval,
  single "circuit_failure_threshold" "EXECUTOR_CIRCUIT_FAILURE_THRESHOLD" 5 atLeastOne circuitFailureThreshold,
  single "circuit_reset_timeout" "EXECUTOR_CIRCUIT_RESET_TIMEOUT" 60.0 above circuitResetTimeout,
  single "max_backoff" "EXECUTOR_MAX_BACKOFF" 30.0 above maxBackoff,
  single "template_keyword" "EXECUTOR_TEMPLATE_KEYWORD" "keruta" Value.text templateKeyword,
  single "mirror_workspace_records" "EXECUTOR_MIRROR_WORKSPACE_RECORDS" true Value.flag mirrorWorkspaceRecords,
  single "scheduler_enabled" "EXECUTOR_SCHEDULER_ENABLED" true Value.flag schedulerEnabled,
  single "scheduler_workers" "EXECUTOR_SCHEDULER_WORKERS" 4 atLeastOne schedulerWorkers,
  single "log_level" "EXECUTOR_LOG_LEVEL" defaultLevel level logLevel,
  ⟨"cors_origins", "EXECUTOR_CORS_ORIGINS", [], origins, faultyOrigins, corsOrigins⟩]

theorem sources_eq : sources = all.map fun e => (e.name, e.source) := rfl

theorem names_distinct : (sources.map (·.1)).Nodup := by decide

theorem source_of_name {e e' : Setting} (he : e ∈ all) (he' : e' ∈ all) (h : e'.name = e.name) :
    e'.source = e.source := by
  have hmem {x : Setting} (hx : x ∈ all) : (x.name, x.source) ∈ sources := by
    rw [sources_eq]
    exact List.mem_map.mpr ⟨x, hx, rfl⟩
  exact (Prod.mk.inj (List.inj_on_of_nodup_map names_distinct (hmem he') (hmem he) h)).2

end Settings

namespace Setting

variable {e : Setting}

/-- The setting from a value that was chosen, or its default. -/
def taken (e : Setting) : Option Settings.Value → Checked e.kind
  | none => .ok e.default
  | some v => (e.read v).under (.name e.name)

theorem optional_eq (e : Setting) (choices : Settings.Choices) :
    choices.optional [e.name] e.default e.read = e.taken (Json.lookup e.name choices) := by
  unfold Named.optional Named.find
  cases Json.lookup e.name choices <;> rfl

/-- What cannot be read is said to be where it is. -/
structure IsLocated (e : Setting) : Prop where
  explained : ∀ v, (e.read v).Explained
  places : ∀ v, (e.read v).places = e.faulty v

theorem isLocated_single {α : Type} {name source : String} {default : α} {read : Settings.Value → Checked α}
    {get : Settings → α} (h : ∀ v, (read v).Whole) : (Settings.single name source default read get).IsLocated :=
  ⟨fun v => (h v).explained, fun v => (h v).places_eq⟩

theorem isLocated (he : e ∈ Settings.all) : e.IsLocated := by
  revert e
  simp only [Settings.all, List.forall_mem_cons, List.not_mem_nil, false_implies, implies_true, and_true]
  and_intros
  · exact isLocated_single Settings.baseUrl_whole
  · exact isLocated_single Settings.baseUrl_whole
  · exact isLocated_single Settings.token_whole
  · exact isLocated_single Settings.above_whole
  · exact isLocated_single Settings.above_whole
  · exact isLocated_single Settings.above_whole
  · exact isLocated_single Settings.above_whole
  · exact isLocated_single Settings.above_whole
  · exact isLocated_single Settings.atLeastOne_whole
  · exact isLocated_single Settings.above_whole
  · exact isLocated_single Settings.above_whole
  · exact isLocated_single Settings.Value.text_whole
  · exact isLocated_single Settings.Value.flag_whole
  · exact isLocated_single Settings.Value.flag_whole
  · exact isLocated_single Settings.atLeastOne_whole
  · exact isLocated_single Settings.level_whole
  · exact ⟨Settings.explained_origins, Settings.places_origins⟩

theorem explained_taken (he : e ∈ Settings.all) (v : Option Settings.Value) : (e.taken v).Explained := by
  cases v with
  | none => exact nofun
  | some v => exact ((isLocated he).explained v).under _

end Setting

namespace Settings

/-! ## One by one -/

/-- Every setting is read from the value that was chosen for it, or has its default. -/
def MadeOf (chosen : Setting → Option Value) (s : Settings) : Prop := ∀ e ∈ all, e.taken (chosen e) = .ok (e.get s)

theorem madeOf_iff {choices : Choices} {s : Settings} :
    MadeOf (fun e => Json.lookup e.name choices) s ↔
      ∀ e ∈ all, choices.optional [e.name] e.default e.read = .ok (e.get s) := by
  simp only [MadeOf, Setting.optional_eq]

theorem madeOf_of_ofChoices {choices : Choices} :
    ∀ s, ofChoices choices = .ok s → MadeOf (fun e => Json.lookup e.name choices) s := by
  unfold ofChoices
  -- one argument after another is taken off, down to the first one, which the constructor is mapped over
  iterate 16 refine Checked.forall_seq ?_
  intro g hg
  obtain ⟨url, hurl, rfl⟩ := Checked.of_map hg
  intros
  simp only [madeOf_iff, all, single, List.forall_mem_cons, List.not_mem_nil, false_implies, implies_true, and_true]
  and_intros <;> assumption

theorem ofChoices_eq_ok_iff {choices : Choices} {s : Settings} :
    ofChoices choices = .ok s ↔ MadeOf (fun e => Json.lookup e.name choices) s := by
  refine ⟨madeOf_of_ofChoices s, fun h => ?_⟩
  simp only [madeOf_iff, all, single, List.forall_mem_cons, List.not_mem_nil, false_implies, implies_true,
    and_true] at h
  simp only [ofChoices, h]
  rfl

theorem issues_ofChoices (choices : Choices) :
    (ofChoices choices).issues = all.flatMap fun e => (e.taken (Json.lookup e.name choices)).issues := by
  simp only [← Setting.optional_eq]
  simp only [ofChoices, all, single, Checked.issues_seq, Checked.issues_map, List.flatMap_cons, List.flatMap_nil,
    List.append_nil, List.append_assoc]

theorem explained_ofChoices (choices : Choices) : (ofChoices choices).Explained := by
  have htaken : ∀ e ∈ all, (choices.optional [e.name] e.default e.read).Explained := by
    intro e he
    rw [Setting.optional_eq]
    exact Setting.explained_taken he _
  simp only [all, single, List.forall_mem_cons, List.not_mem_nil, false_implies, implies_true, and_true] at htaken
  unfold ofChoices
  iterate 16 refine Checked.Explained.seq ?_ (by simp only [htaken])
  exact Checked.Explained.map (by simp only [htaken]) mk

/-! ## Layers -/

end Settings

namespace Json

variable {α : Type}

theorem lookup_cons (key name : String) (value : α) (fields : List (String × α)) :
    lookup name ((key, value) :: fields) = if key = name then some value else lookup name fields := by
  unfold lookup
  by_cases h : key = name
  · simp [h]
  · rw [List.find?_cons_of_neg (by simpa using h), if_neg h]

theorem lookup_append (name : String) (fields more : List (String × α)) :
    lookup name (fields ++ more) = (lookup name fields).or (lookup name more) := by
  unfold lookup
  rw [List.find?_append]
  cases fields.find? (·.1 == name) <;> rfl

theorem lookup_eq_none_iff {name : String} {fields : List (String × α)} :
    lookup name fields = none ↔ ∀ f ∈ fields, f.1 ≠ name := by
  simp [lookup]

theorem lookup_replaced (name key : String) (value : α) (fields : List (String × α)) :
    lookup name (fields.map fun f => if f.1 == key then (key, value) else f) =
      if key = name then (lookup name fields).map fun _ => value else lookup name fields := by
  induction fields with
  | nil => simp [lookup]
  | cons f rest ih =>
    obtain ⟨own, old⟩ := f
    rw [List.map_cons]
    by_cases hown : own = key
    · subst hown
      simp only [beq_self_eq_true, if_true, lookup_cons, ih]
      split_ifs <;> rfl
    · simp only [beq_eq_false_iff_ne.mpr hown, Bool.false_eq_true, if_false, lookup_cons, ih]
      by_cases hname : own = name
      · have hother : key ≠ name := fun h => hown (hname.trans h.symm)
        simp only [hname, hother, if_true, if_false]
      · simp only [hname, if_false]

theorem lookup_put (name key : String) (value : α) (fields : List (String × α)) :
    lookup name (put fields key value) = if key = name then some value else lookup name fields := by
  unfold put
  by_cases hany : (fields.any (·.1 == key)) = true
  · rw [if_pos hany, lookup_replaced]
    by_cases hsame : key = name
    · rw [if_pos hsame, if_pos hsame, ← hsame]
      cases hlookup : lookup key fields with
      | some old => rfl
      | none =>
        obtain ⟨f, hf, hkey⟩ := List.any_eq_true.mp hany
        exact absurd (beq_iff_eq.mp hkey) (lookup_eq_none_iff.mp hlookup f hf)
    · rw [if_neg hsame, if_neg hsame]
  · rw [if_neg hany, lookup_append, lookup_cons]
    by_cases hsame : key = name
    · have hnone : lookup name fields = none := by
        rw [lookup_eq_none_iff, ← hsame]
        intro f hf hkey
        exact hany (List.any_eq_true.mpr ⟨f, hf, beq_iff_eq.mpr hkey⟩)
      rw [if_pos hsame, if_pos hsame, hnone, Option.none_or]
    · rw [if_neg hsame, if_neg hsame]
      exact Option.or_none

/-- Names that are all different are found where they stand, whatever was left out. -/
theorem lookup_filterMap {β : Type} {names : List (String × β)} (hnames : (names.map (·.1)).Nodup)
    (value : String × β → Option α) {x : String × β} (hx : x ∈ names) :
    lookup x.1 (names.filterMap fun e => (value e).map fun v => (e.1, v)) = value x := by
  induction names with
  | nil => cases hx
  | cons e rest ih =>
    rw [List.map_cons, List.nodup_cons] at hnames
    rcases List.mem_cons.mp hx with rfl | hlater
    · cases hvalue : value x with
      | some v => rw [List.filterMap_cons_some (by rw [hvalue]; rfl), lookup_cons, if_pos rfl]
      | none =>
        rw [List.filterMap_cons_none (by rw [hvalue]; rfl), lookup_eq_none_iff]
        intro f hf hsame
        obtain ⟨e, he, hmap⟩ := List.mem_filterMap.mp hf
        obtain ⟨v, -, rfl⟩ := Option.map_eq_some_iff.mp hmap
        exact hnames.1 (List.mem_map.mpr ⟨e, he, hsame⟩)
    · have hother : e.1 ≠ x.1 := by
        intro hsame
        exact hnames.1 (List.mem_map.mpr ⟨x, hlater, hsame.symm⟩)
      cases hvalue : value e with
      | none => rw [List.filterMap_cons_none (by rw [hvalue]; rfl), ih hnames.2 hlater]
      | some v => rw [List.filterMap_cons_some (by rw [hvalue]; rfl), lookup_cons, if_neg hother, ih hnames.2 hlater]

end Json

namespace Settings

theorem lookup_layered (env : Environment) (file : Choices) {e : Setting} (he : e ∈ all) :
    Json.lookup e.name (layered env file) = chosen env file e.name e.source := by
  have hsource : (e.name, e.source) ∈ sources := by
    rw [sources_eq]
    exact List.mem_map.mpr ⟨e, he, rfl⟩
  exact Json.lookup_filterMap names_distinct (fun x => chosen env file x.1 x.2) hsource

/-! ## Files -/

/-- The document holds these entries for the settings: those of its part for the keeper if there is one, else all that
it has. A document that is blank has none. -/
inductive Holds (d : Document) : List (Nat × Nat) → Prop
  | blank (hblank : d.isFilled d.root = false) : Holds d []
  | whole {es : List (Nat × Nat)} (hes : d.entries? d.root = some es) (hnone : d.entry? es sectionName = none) :
    Holds d es
  | part {es part : List (Nat × Nat)} {id : Nat} (hes : d.entries? d.root = some es)
    (hid : d.entry? es sectionName = some id) (hpart : d.entries? id = some part) : Holds d part

theorem isFilled_of_entries {d : Document} {id : Nat} {es : List (Nat × Nat)} (h : d.entries? id = some es) :
    d.isFilled id = !es.isEmpty := by
  unfold Document.entries? at h
  unfold Document.isFilled
  cases hview : d.view id with
  | mapping own =>
    rw [hview] at h
    obtain rfl := Option.some.inj h
    rfl
  | _ => simp [hview] at h

theorem sectionOf_eq {d : Document} {es : List (Nat × Nat)} (h : Holds d es) (path : String) :
    sectionOf path d = .ok es := by
  unfold sectionOf
  cases h with
  | blank hblank => rw [hblank]; rfl
  | whole hes hnone =>
    rw [isFilled_of_entries hes]
    cases es with
    | nil => rfl
    | cons e rest => simp [hes, hnone]
  | part hes hid hpart =>
    rw [isFilled_of_entries hes]
    rename_i es id
    cases es with
    | nil => cases hid
    | cons e rest => simp [hes, hid, hpart]

def valueAt (d : Document) (es : List (Nat × Nat)) (name : String) : Option Value :=
  (d.entry? es name).map (Value.ofNode d)

theorem valueAt_cons (d : Document) (e : Nat × Nat) (es : List (Nat × Nat)) (name : String) :
    valueAt d (e :: es) name =
      (valueAt d es name).or (if d.keyText? e.1 = some name then some (Value.ofNode d e.2) else none) := by
  unfold valueAt Document.entry?
  rw [List.reverse_cons, List.find?_append]
  cases es.reverse.find? fun e => d.keyText? e.1 == some name with
  | some found => rfl
  | none => by_cases h : d.keyText? e.1 = some name <;> simp [h]

def addChoice (d : Document) (fs : Choices) (e : Nat × Nat) : Except Fault Choices :=
  match d.keyText? e.1 with
  | some key => .ok (Json.put fs key (Value.ofNode d e.2))
  | none => .error .wrongKind

theorem choicesOf_eq (d : Document) (es : List (Nat × Nat)) : choicesOf d es = es.foldlM (addChoice d) [] := rfl

theorem lookup_choicesFrom {d : Document} {es : List (Nat × Nat)} (hkeys : ∀ e ∈ es, ∃ key, d.keyText? e.1 = some key)
    (before : Choices) :
    ∃ file, es.foldlM (addChoice d) before = .ok file ∧
      ∀ name, Json.lookup name file = (valueAt d es name).or (Json.lookup name before) := by
  -- a later entry of a name takes the place of an earlier one, so what was there before comes last
  induction es generalizing before with
  | nil => exact ⟨before, rfl, fun _ => rfl⟩
  | cons e rest ih =>
    obtain ⟨key, hkey⟩ := hkeys e List.mem_cons_self
    have hadd : addChoice d before e = .ok (Json.put before key (Value.ofNode d e.2)) := by
      unfold addChoice
      rw [hkey]
    obtain ⟨file, hfile, hlookup⟩ :=
      ih (fun e he => hkeys e (List.mem_cons_of_mem _ he)) (Json.put before key (Value.ofNode d e.2))
    refine ⟨file, ?_, fun name => ?_⟩
    · rw [List.foldlM_cons, hadd]
      exact hfile
    · rw [hlookup, valueAt_cons, Json.lookup_put, hkey, Option.or_assoc]
      by_cases hname : key = name <;> simp [hname]

theorem lookup_choicesOf {d : Document} {es : List (Nat × Nat)} (hkeys : ∀ e ∈ es, ∃ key, d.keyText? e.1 = some key) :
    ∃ file, choicesOf d es = .ok file ∧ ∀ name, Json.lookup name file = valueAt d es name := by
  obtain ⟨file, hfile, hlookup⟩ := lookup_choicesFrom hkeys []
  exact ⟨file, (choicesOf_eq d es).trans hfile, fun name => (hlookup name).trans Option.or_none⟩

/-- The text of the file that the environment names. -/
def NamesText (files : Folder) (env : Environment) (cs : List Char) : Prop :=
  ∃ path place octets, env.filled? fileVariable = some path ∧ (FilePath.ofText path).atHome = .ok place ∧
    files.contents place = .ok octets ∧ Text.decodeUtf8? false octets = some cs

/-- What the environment finds under the names of settings: nothing without a file, else the values of a mapping all
of whose keys are text. -/
inductive Consults (files : Folder) (env : Environment) : (String → Option Value) → Prop
  | unnamed (hpath : env.filled? fileVariable = none) : Consults files env fun _ => none
  | empty {cs : List Char} (hcs : NamesText files env cs) (hread : Document.read cs = .ok none) :
    Consults files env fun _ => none
  | mapping {cs : List Char} {d : Document} {es : List (Nat × Nat)} (hcs : NamesText files env cs)
    (hread : Document.read cs = .ok (some d)) (hes : Holds d es)
    (hkeys : ∀ e ∈ es, ∃ key, d.keyText? e.1 = some key) : Consults files env (valueAt d es)

variable {files : Folder} {env : Environment} {mapping : String → Option Value}

theorem load_named {cs : List Char} (hcs : NamesText files env cs) {file : Choices}
    (hfile : ∀ path, choicesOfText path cs = .ok file) : load files env = ofLayers env file := by
  obtain ⟨path, place, octets, hpath, hplace, hoctets, htext⟩ := hcs
  unfold load fileChoices
  simp [hpath, hplace, hoctets, htext, hfile, bind, Except.bind]

theorem load_consults (h : Consults files env mapping) :
    ∃ file, load files env = ofLayers env file ∧ ∀ name, Json.lookup name file = mapping name := by
  cases h with
  | unnamed hpath =>
    refine ⟨[], ?_, fun _ => rfl⟩
    unfold load
    rw [hpath]
    rfl
  | empty hcs hread =>
    refine ⟨[], load_named hcs fun path => ?_, fun _ => rfl⟩
    unfold choicesOfText
    rw [hread]
    rfl
  | mapping hcs hread hes hkeys =>
    obtain ⟨file, hfile, hlookup⟩ := lookup_choicesOf hkeys
    refine ⟨file, load_named hcs fun path => ?_, hlookup⟩
    unfold choicesOfText
    rw [hread]
    show (sectionOf path _ >>= fun es => choicesOf _ es) = _
    rw [sectionOf_eq hes]
    exact hfile

/-! ## What is loaded -/

end Settings

/-- The value that is chosen for a setting: the text of its variable, or else what the mapping has under its name. -/
def Setting.chosen (e : Setting) (env : Environment) (mapping : String → Option Settings.Value) :
    Option Settings.Value :=
  match env.filled? e.source with
  | some text => some (.plain (.text text))
  | none => mapping e.name

theorem Setting.taken_ok_iff {e : Setting} {v : Option Settings.Value} :
    (∃ a, e.taken v = .ok a) ↔ ∀ w, v = some w → ∃ a, e.read w = .ok a := by
  cases v with
  | none => exact iff_of_true ⟨e.default, rfl⟩ nofun
  | some v =>
    have htaken : e.taken (some v) = (e.read v).under (.name e.name) := rfl
    rw [htaken]
    cases hread : e.read v with
    | ok a => exact iff_of_true ⟨a, rfl⟩ fun w hw => ⟨a, Option.some.inj hw ▸ hread⟩
    | bad is =>
      refine iff_of_false (by rintro ⟨a, ⟨⟩⟩) fun h => ?_
      obtain ⟨a, ha⟩ := h v rfl
      rw [hread] at ha
      cases ha

namespace Settings

variable {chosen chosen' : Setting → Option Value}

def issuesOf (chosen : Setting → Option Value) : List Issue := all.flatMap fun e => (e.taken (chosen e)).issues

def faultyPlaces (chosen : Setting → Option Value) : List (List Place) :=
  all.flatMap fun e => ((chosen e).elim [] e.faulty).map (.name e.name :: ·)

theorem madeOf_congr (h : ∀ e ∈ all, chosen e = chosen' e) (s : Settings) : MadeOf chosen s ↔ MadeOf chosen' s := by
  refine forall₂_congr fun e he => ?_
  rw [h e he]

theorem issuesOf_congr (h : ∀ e ∈ all, chosen e = chosen' e) : issuesOf chosen = issuesOf chosen' := by
  refine List.flatMap_congr fun e he => ?_
  rw [h e he]

theorem issuesOf_eq_nil_iff :
    issuesOf chosen = [] ↔ ∀ e ∈ all, ∀ v, chosen e = some v → ∃ a, e.read v = .ok a := by
  unfold issuesOf
  rw [List.flatMap_eq_nil_iff]
  refine forall₂_congr fun e he => ?_
  rw [← (Setting.explained_taken he (chosen e)).ok_iff, Setting.taken_ok_iff]

theorem faulty_eq_nil_iff {e : Setting} (he : e ∈ all) (v : Value) : e.faulty v = [] ↔ ∃ a, e.read v = .ok a := by
  have hlocated := Setting.isLocated he
  rw [(hlocated.explained v).ok_iff, ← hlocated.places]
  exact List.map_eq_nil_iff

theorem places_issuesOf (chosen : Setting → Option Value) :
    (issuesOf chosen).map Issue.place = faultyPlaces chosen := by
  unfold issuesOf faultyPlaces
  rw [List.map_flatMap]
  refine List.flatMap_congr fun e he => ?_
  have hlocated := Setting.isLocated he
  cases chosen e with
  | none => rfl
  | some v =>
    show ((e.read v).under (.name e.name)).places = _
    rw [Checked.places_under, hlocated.places]
    rfl

/-- What is loaded where these values are found under the names of settings. -/
structure LoadsBy (files : Folder) (env : Environment) (mapping : String → Option Value) : Prop where
  /-- Every setting is read from the value that is chosen for it, or has its default. -/
  loaded : ∀ s, load files env = .ok s ↔ MadeOf (fun e => e.chosen env mapping) s
  /-- Settings are loaded if every value that is chosen can be read. -/
  succeeds : (∃ s, load files env = .ok s) ↔
    ∀ e ∈ all, ∀ v, e.chosen env mapping = some v → ∃ a, e.read v = .ok a
  /-- Otherwise the fault tells the issues of the values that cannot, in the order of the settings. -/
  fails : (¬ ∃ s, load files env = .ok s) → ∃ is, load files env = .error (.badValue invalidMessage (some is)) ∧
    is = issuesOf (fun e => e.chosen env mapping) ∧ is.map Issue.place = faultyPlaces fun e => e.chosen env mapping

theorem chosen_layered (env : Environment) {file : Choices} (hlookup : ∀ name, Json.lookup name file = mapping name) :
    ∀ e ∈ all, Json.lookup e.name (layered env file) = e.chosen env mapping := by
  intro e he
  rw [lookup_layered env file he, Settings.chosen, hlookup]
  unfold Setting.chosen
  cases env.filled? e.source <;> rfl

theorem loadsBy (h : Consults files env mapping) : LoadsBy files env mapping := by
  obtain ⟨file, hload, hlookup⟩ := load_consults h
  have hchosen := chosen_layered env hlookup
  have hissues : (ofChoices (layered env file)).issues = issuesOf fun e => e.chosen env mapping :=
    (issues_ofChoices _).trans (issuesOf_congr hchosen)
  have hok (s : Settings) : load files env = .ok s ↔ ofChoices (layered env file) = .ok s := by
    rw [hload]
    exact Checked.toExcept_eq_ok
  refine ⟨fun s => ?loaded, ?succeeds, fun hfailed => ?fails⟩
  case loaded => rw [hok, ofChoices_eq_ok_iff, madeOf_congr hchosen]
  case succeeds => simp only [hok, (explained_ofChoices _).ok_iff, hissues, issuesOf_eq_nil_iff]
  case fails =>
    cases hread : ofChoices (layered env file) with
    | ok s => exact absurd ⟨s, (hok s).mpr hread⟩ hfailed
    | bad is =>
      have his : is = issuesOf fun e => e.chosen env mapping := by
        rw [← hissues, hread]
        rfl
      refine ⟨is, ?_, his, ?_⟩
      · rw [hload, ofLayers, hread]
        rfl
      · rw [his]
        exact places_issuesOf _

theorem load_congr {files' : Folder} {env' : Environment} {mapping' : String → Option Value}
    (h : Consults files env mapping) (h' : Consults files' env' mapping')
    (hsame : ∀ e ∈ all, e.chosen env' mapping' = e.chosen env mapping) : load files' env' = load files env := by
  have hloads := loadsBy h
  have hloads' := loadsBy h'
  by_cases hok : ∃ s, load files env = .ok s
  · obtain ⟨s, hs⟩ := hok
    have hmade := (madeOf_congr hsame s).mpr ((hloads.loaded s).mp hs)
    rw [hs, (hloads'.loaded s).mpr hmade]
  · have hok' : ¬ ∃ s, load files' env' = .ok s := by
      rintro ⟨s, hs⟩
      exact hok ⟨s, (hloads.loaded s).mpr ((madeOf_congr hsame s).mp ((hloads'.loaded s).mp hs))⟩
    obtain ⟨is, hfault, his, -⟩ := hloads.fails hok
    obtain ⟨is', hfault', his', -⟩ := hloads'.fails hok'
    rw [hfault, hfault', his, his', issuesOf_congr hsame]

theorem load_of_filled {env' : Environment} (h : ∀ name, env'.filled? name = env.filled? name) (files : Folder) :
    load files env' = load files env := by
  -- nothing in `load` asks for more than the texts of variables
  have hlayers (file : Choices) : ofLayers env' file = ofLayers env file := by
    unfold ofLayers layered Settings.chosen
    simp only [h]
  unfold load
  simp only [h, hlayers]

theorem filled_of_empty (env : Environment) (unset name : String) :
    Environment.filled? ((unset, "") :: env) name = Environment.filled? (env.filter (·.1 != unset)) name := by
  unfold Environment.filled?
  rw [List.find?_filter]
  by_cases hname : unset = name
  · have hnone : env.find? (fun x => decide ((x.1 != unset) = true ∧ (x.1 == name) = true)) = none := by
      rw [List.find?_eq_none]
      intro x _
      simp [hname]
    rw [List.find?_cons_of_pos (by simpa using hname), hnone]
    rfl
  · have hsame : (fun x : String × String => decide ((x.1 != unset) = true ∧ (x.1 == name) = true)) =
        fun x => x.1 == name := by
      funext x
      by_cases hx : x.1 = name
      · simp [hx, Ne.symm hname]
      · simp [hx]
    rw [List.find?_cons_of_neg (by simpa using hname), hsame]

theorem any_toOption_iff {α ε : Type} {x : Except ε α} {p : α → Bool} :
    x.toOption.any p = true ↔ ∃ a, x = .ok a ∧ p a = true := by
  cases x <;> simp [Except.toOption]

/-- **Every setting is decided by itself.** Its value is the text of its variable if that is not empty, else what the
mapping of the file has under its name, else its default. Settings are loaded exactly if every value that is chosen can
be read; otherwise the fault tells what cannot be read, setting by setting and in their order, the items of a list by
their index. Nothing else counts: not what the mapping has under other names, not what it has for a setting that has a
variable, and not a variable that is empty. -/
theorem load_by_layers {files : Folder} {env : Environment} {mapping : String → Option Value}
    (h : Consults files env mapping) :
    LoadsBy files env mapping ∧
    (∀ e ∈ all, ∀ v, e.faulty v = [] ↔ ∃ a, e.read v = .ok a) ∧
    (∀ files' env' mapping', Consults files' env' mapping' →
      (∀ e ∈ all, e.chosen env' mapping' = e.chosen env mapping) → load files' env' = load files env) ∧
    (∀ files' mapping', Consults files' env mapping' → (∀ e ∈ all, mapping' e.name = mapping e.name) →
      load files' env = load files env) ∧
    (∀ e ∈ all, ∀ text, env.filled? e.source = some text → ∀ files' mapping', Consults files' env mapping' →
      (∀ name, name ≠ e.name → mapping' name = mapping name) → load files' env = load files env) ∧
    ∀ unset, load files ((unset, "") :: env) = load files (env.filter (·.1 != unset)) := by
  refine ⟨loadsBy h, fun e he => faulty_eq_nil_iff he, fun _ _ _ => load_congr h, ?unknown, ?shadowed, ?empty⟩
  case unknown =>
    intro files' mapping' h' hsame
    refine load_congr h h' fun e he => ?_
    unfold Setting.chosen
    rw [hsame e he]
  case shadowed =>
    intro e he text htext files' mapping' h' hsame
    refine load_congr h h' fun e' he' => ?_
    unfold Setting.chosen
    by_cases hname : e'.name = e.name
    -- no two settings share a name, so this one has the variable as well
    · have hsource := source_of_name he he' hname
      rw [hsource, htext]
    · rw [hsame e'.name hname]
  case empty =>
    intro unset
    exact load_of_filled (filled_of_empty env unset) files

theorem load_by_layers_shadowed :
    let cs := "executor:\n  circuit_failure_threshold: 0\n  bogus: 1\n".toList
    let files : Folder := [("keeper.yaml", cs.flatMap Text.encodeChar)]
    let env : Environment := [(fileVariable, "keeper.yaml"), ("EXECUTOR_CIRCUIT_FAILURE_THRESHOLD", "7")]
    ∃ mapping, Consults files env mapping ∧ LoadsBy files env mapping ∧
      (∃ v, mapping "circuit_failure_threshold" = some v ∧ (atLeastOne v).isOk = false) ∧
      ∃ s, load files env = .ok s ∧ s.circuitFailureThreshold = 7 := by
  intro cs files env
  let part := [(3, 4), (5, 6)]
  have hread : (Document.read cs).toOption.any (·.any fun d => decide (d.entries? d.root = some [(1, 2)] ∧
      d.entry? [(1, 2)] sectionName = some 2 ∧ d.entries? 2 = some part ∧ (∀ e ∈ part, (d.keyText? e.1).isSome) ∧
      (valueAt d part "circuit_failure_threshold").any fun v => !(atLeastOne v).isOk)) = true := by
    decide +kernel
  have hcontents : (files.contents (FilePath.ofText "keeper.yaml")).toOption.any
      (fun octets => decide (Text.decodeUtf8? false octets = some cs)) = true := by
    decide +kernel
  have hload : (load files env).toOption.any (fun s => decide (s.circuitFailureThreshold = 7)) = true := by
    decide +kernel
  obtain ⟨read, hok, hany⟩ := any_toOption_iff.mp hread
  obtain ⟨d, rfl, hparts⟩ := (Option.any_eq_true _ _).mp hany
  obtain ⟨hroot, hid, hpart, hkeys, hvalue⟩ := of_decide_eq_true hparts
  obtain ⟨octets, hoctets, htext⟩ := any_toOption_iff.mp hcontents
  obtain ⟨s, hs, hseven⟩ := any_toOption_iff.mp hload
  have hconsults : Consults files env (valueAt d part) := by
    refine .mapping ⟨_, _, octets, rfl, rfl, hoctets, of_decide_eq_true htext⟩ hok (.part hroot hid hpart) ?_
    exact fun e he => Option.isSome_iff_exists.mp (hkeys e he)
  refine ⟨_, hconsults, (load_by_layers hconsults).1, ?_, s, hs, of_decide_eq_true hseven⟩
  obtain ⟨v, hv, hbad⟩ := (Option.any_eq_true _ _).mp hvalue
  exact ⟨v, hv, by simpa using hbad⟩

end Settings

end SessionKeeper

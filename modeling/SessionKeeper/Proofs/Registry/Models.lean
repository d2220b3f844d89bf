import SessionKeeper.Proofs.Checked
import SessionKeeper.Proofs.Moment.Text
import SessionKeeper.Proofs.Settings.Layers
import SessionKeeper.Record
import SessionKeeper.Session

/-!
# Models that are read again

Sessions, records, listed templates and requests are read with tolerance, and what was read is printed in one form.
That form is read again as the same model, whichever way its keys are written.

* `Checked.ok_seq`, `Named.required_found`, `Named.optional_found` : models are put together from fields.
* `Field.moment_ofMoment`, `Field.dated_of_moment` : a moment is read again, and only such moments are read.
* `Named.without`, `Named.find_without` : an object without a field that is overruled.
* `ReadsOnly`, `spellings` : the names by which an object is read, and those of them with two spellings.
* `Survives`, `ReadsOnly.survives` : a model is read again, and one spelling of a key overrules the other.
* `Registry.models_survive` : the four models of the registry.
-/

namespace SessionKeeper

variable {α β : Type}

/-! ## Reading fields -/

namespace Checked

theorem ok_seq {f : Checked (α → β)} {g : α → β} {x : Checked α} {a : α} (hf : f = .ok g) (hx : x = .ok a) :
    (f <*> x) = .ok (g a) := by
  rw [hf, hx]
  rfl

theorem ok_map {g : α → β} {x : Checked α} {a : α} (hx : x = .ok a) : (g <$> x) = .ok (g a) := by
  rw [hx]
  rfl

end Checked

namespace Named

variable {fields : Named β} {names : List String} {name : String} {v : β} {read : β → Checked α} {default a : α}

theorem required_found (hfind : fields.find names = some (name, v)) (hread : read v = .ok a) :
    fields.required names read = .ok a := by
  unfold required
  rw [hfind]
  dsimp only
  rw [hread]
  rfl

theorem optional_found (hfind : fields.find names = some (name, v)) (hread : read v = .ok a) :
    fields.optional names default read = .ok a := by
  unfold optional
  rw [hfind]
  dsimp only
  rw [hread]
  rfl

end Named

namespace Field

theorem orNull_written {read : Json → Checked α} {write : α → Json} {o : Option α}
    (h : ∀ a, o = some a → read (write a) = .ok a ∧ write a ≠ .null) : orNull read (.orNull write o) = .ok o := by
  cases o with
  | none => rfl
  | some a =>
    obtain ⟨hread, hfilled⟩ := h a rfl
    have hpresent : orNull read (write a) = (read (write a)).map some := by
      unfold orNull
      split
      · contradiction
      · rfl
    show orNull read (write a) = .ok (some a)
    rw [hpresent, hread]
    rfl

theorem orNull_text (o : Option String) : orNull text (.orNull .text o) = .ok o := by
  cases o <;> rfl

theorem texts_written (ts : List String) : texts (.list (ts.map .text)) = .ok ts := by
  have hitems (i : Nat) : itemsFrom text i (ts.map .text) = .ok ts := by
    induction ts generalizing i with
    | nil => rfl
    | cons t ts ih =>
      rw [List.map_cons, itemsFrom, ih]
      rfl
  exact hitems 0

/-! ## Moments -/

theorem not_loneHalf {c : Char} (h : c.toNat < 128) : Text.isLoneHalf c = false := by
  unfold Text.isLoneHalf Text.surrogate?
  have hlow : ¬ (Text.surrogatePlane + 0xD800 ≤ c.toNat ∧ c.toNat < Text.surrogatePlane + 0xE000) := by
    unfold Text.surrogatePlane
    omega
  rw [if_neg (by simpa using hlow)]
  rfl

theorem moment_text {s : String} {m : Moment} (hwhole : s.toList.any Text.isLoneHalf = false)
    (hread : Moment.read s.toList = .ok m) : moment (.text s) = .ok m := by
  rw [moment, ofText, hwhole, if_neg Bool.false_ne_true, hread]
  rfl

theorem moment_ofMoment {m : Moment} (h : m.Dated) : moment (.ofMoment m) = .ok m := by
  refine moment_text ?_ ?_
  · rw [Moment.text, String.toList_ofList, List.any_eq_false]
    intro c hc
    rw [not_loneHalf (Moment.AllBasic.chars m c hc)]
    exact Bool.false_ne_true
  · rw [Moment.text, String.toList_ofList, Moment.read_chars h]

theorem orNull_moment {o : Option Moment} (h : ∀ m, o = some m → m.Dated) :
    orNull moment (.orNull .ofMoment o) = .ok o :=
  orNull_written fun m hm => ⟨moment_ofMoment (h m hm), nofun⟩

theorem dated_of_sound {r : Except Moment.Failure Moment} (hr : Moment.Sound r) {m : Moment} (h : ofMoment r = .ok m) :
    m.Dated := by
  cases r with
  | error e => cases h
  | ok n =>
    obtain rfl : n = m := Checked.ok.inj h
    exact hr n rfl

theorem dated_of_moment {j : Json} {m : Moment} (h : moment j = .ok m) : m.Dated := by
  unfold moment at h
  split at h
  · unfold ofText at h
    split_ifs at h
    · cases h
    · exact dated_of_sound (Moment.sound_read _) h
  · split_ifs at h
    · cases h
    · exact dated_of_sound (Moment.sound_ofNumber fun _ => Moment.isValid_ofTimestamp) h
  · exact dated_of_sound (Moment.sound_ofNumber fun _ => Moment.isValid_ofReal) h
  · cases h

theorem dated_of_orNull {j : Json} {o : Option Moment} (h : orNull moment j = .ok o) : ∀ m, o = some m → m.Dated := by
  unfold orNull at h
  rintro m rfl
  split at h
  · cases Checked.ok.inj h
  · obtain ⟨n, hn, hsome⟩ := Checked.of_map h
    obtain rfl := Option.some.inj hsome
    exact dated_of_moment hn

/-- The moments of creation and of the last change are such as are read. -/
structure AreDated (created updated : Option Moment) : Prop where
  created : ∀ m, created = some m → m.Dated
  updated : ∀ m, updated = some m → m.Dated

theorem dated_of_optional {fields : Fields} {names : List String} {o : Option Moment}
    (h : fields.optional names none (orNull moment) = .ok o) : ∀ m, o = some m → m.Dated := by
  rcases Checked.of_optional h with rfl | ⟨v, hv⟩
  · exact nofun
  · exact dated_of_orNull hv

end Field

/-! ## Keys with two spellings -/

def Named.without (fields : Named β) (name : String) : Named β := fields.filter fun f => f.1 ≠ name

theorem Named.lookup_without {fields : Named β} {name gone : String} (h : name ≠ gone) :
    Json.lookup name (fields.without gone) = Json.lookup name fields := by
  unfold Named.without
  induction fields with
  | nil => rfl
  | cons f fields ih =>
    obtain ⟨own, v⟩ := f
    by_cases hgone : own = gone
    · have hother : own ≠ name := fun hown => h (hown.symm.trans hgone)
      rw [List.filter_cons_of_neg (by simpa using hgone), ih, Json.lookup_cons, if_neg hother]
    · rw [List.filter_cons_of_pos (by simpa using hgone), Json.lookup_cons, Json.lookup_cons, ih]

/-- Without a field nothing else is found, as long as its name comes second to one that is present. -/
theorem Named.find_without {fields : Named β} {first gone : String} (hfirst : Json.lookup first fields ≠ none)
    (hne : first ≠ gone) {names : List String} (hnames : gone ∈ names → names = [first, gone]) :
    (fields.without gone).find names = fields.find names := by
  by_cases hgone : gone ∈ names
  · obtain ⟨v, hv⟩ := Option.ne_none_iff_exists'.mp hfirst
    rw [hnames hgone]
    unfold find
    rw [lookup_without hne, hv]
  · clear hnames
    induction names with
    | nil => rfl
    | cons name names ih =>
      rw [List.mem_cons, not_or] at hgone
      rw [find, find, lookup_without (Ne.symm hgone.1), ih hgone.2]

/-- An object is read by nothing but what is found under these names. -/
def ReadsOnly (keys : List (List String)) (read : Json → Checked α) : Prop :=
  ∀ fs gs : Fields, (∀ names ∈ keys, fs.find names = gs.find names) → read (.object fs) = read (.object gs)

def Json.names : Json → List String
  | .object fs => fs.map (·.1)
  | _ => []

/-- The keys that the two styles write in two ways. -/
def spellings (json : KeyStyle → α → Json) (a : α) : List (String × String) :=
  ((json .camel a).names.zip (json .snake a).names).filter fun p => p.1 ≠ p.2

/-- What was read is read again, the same, from what is printed of it in either style; and where an object has a key in
both spellings, the one in camel case counts as if it were there alone. -/
structure Survives (read : Json → Checked α) (json : KeyStyle → α → Json) : Prop where
  again : ∀ j a, read j = .ok a → ∀ style, read (json style a) = .ok a
  overruled : ∀ a, ∀ p ∈ spellings json a, ∀ fs, Json.lookup p.1 fs ≠ none →
    read (.object fs) = read (.object (Named.without fs p.2))

/-- The second name occurs only behind the first. -/
def Follows (keys : List (List String)) (p : String × String) : Prop :=
  p.1 ≠ p.2 ∧ ∀ names ∈ keys, p.2 ∈ names → names = [p.1, p.2]

instance (keys : List (List String)) (p : String × String) : Decidable (Follows keys p) :=
  inferInstanceAs (Decidable (_ ∧ _))

theorem ReadsOnly.survives {keys : List (List String)} {read : Json → Checked α} {json : KeyStyle → α → Json}
    (h : ReadsOnly keys read) {pairs : List (String × String)} (hspellings : ∀ a, spellings json a = pairs)
    (hpairs : ∀ p ∈ pairs, Follows keys p)
    (again : ∀ j a, read j = .ok a → ∀ style, read (json style a) = .ok a) : Survives read json where
  again := again
  overruled a p hp fs hfirst := by
    rw [hspellings a] at hp
    obtain ⟨hne, hkeys⟩ := hpairs p hp
    exact h fs (Named.without fs p.2) fun names hnames => (Named.find_without hfirst hne (hkeys names hnames)).symm

/-! ## Models -/

open Checked Named

theorem SessionStatus.read_text (status : SessionStatus) : read (.text status.text) = .ok status := by
  cases status <;> rfl

namespace Session

theorem read_json {s : Session} (h : Field.AreDated s.createdAt s.updatedAt) (style : KeyStyle) :
    read (s.json style) = .ok s := by
  have hcreated := Field.orNull_moment h.created
  have hupdated := Field.orNull_moment h.updated
  have htags : readTags (.list (s.tags.map .text)) = .ok s.tags := Field.texts_written s.tags
  have hstatus := SessionStatus.read_text s.status
  rw [read, json, Json.checkFields, ofFields]
  cases style
  all_goals
    refine ok_seq (ok_seq (ok_seq (ok_seq (ok_seq (ok_map ?id) ?name) ?status) ?tags) ?created) ?updated
    case id => exact required_found rfl rfl
    case name => exact optional_found rfl rfl
    case status => exact required_found rfl hstatus
    case tags => exact optional_found rfl htags
    case created => exact optional_found rfl hcreated
    case updated => exact optional_found rfl hupdated

theorem areDated_of_read {j : Json} {s : Session} (h : read j = .ok s) :
    Field.AreDated s.createdAt s.updatedAt := by
  cases j with
  | object fs =>
    have hfields : ofFields fs = .ok s := h
    unfold ofFields at hfields
    obtain ⟨make, updated, hmake, hupdated, rfl⟩ := of_seq hfields
    obtain ⟨make, created, hmore, hcreated, rfl⟩ := of_seq hmake
    obtain ⟨make, tags, htagged, -, rfl⟩ := of_seq hmore
    obtain ⟨make, status, hnamed, -, rfl⟩ := of_seq htagged
    obtain ⟨make, name, hid, -, rfl⟩ := of_seq hnamed
    obtain ⟨id, -, rfl⟩ := of_map hid
    exact ⟨Field.dated_of_optional hcreated, Field.dated_of_optional hupdated⟩
  | _ => cases h

/-- The names of the fields of a session. -/
def keys : List (List String) :=
  [["id"], ["name"], ["status"], ["tags"], ["createdAt", "created_at"], ["updatedAt", "updated_at"]]

theorem readsOnly : ReadsOnly keys read := by
  intro fs gs h
  simp only [keys, List.forall_mem_cons, List.not_mem_nil, false_implies, implies_true, and_true] at h
  show ofFields fs = ofFields gs
  unfold ofFields required Named.optional
  simp only [h]

theorem spellings_json (s : Session) :
    spellings json s = [("createdAt", "created_at"), ("updatedAt", "updated_at")] := rfl

theorem survives : Survives read json :=
  readsOnly.survives spellings_json (by decide) fun _ _ h style => read_json (areDated_of_read h) style

end Session

namespace WorkspaceRecord

theorem read_json {r : WorkspaceRecord} (h : Field.AreDated r.createdAt r.updatedAt) (style : KeyStyle) :
    read (r.json style) = .ok r := by
  have hcreated := Field.orNull_moment h.created
  have hupdated := Field.orNull_moment h.updated
  rw [read, json, Json.checkFields, ofFields]
  cases style
  all_goals
    refine ok_seq (ok_seq (ok_seq (ok_seq (ok_seq (ok_seq (ok_seq (ok_map ?id) ?name) ?session) ?status) ?workspace)
      ?url) ?created) ?updated
    case id => exact required_found rfl rfl
    case name => exact optional_found rfl rfl
    case session => exact optional_found rfl rfl
    case status => exact optional_found rfl rfl
    case workspace => exact optional_found rfl (Field.orNull_text r.workspaceId)
    case url => exact optional_found rfl (Field.orNull_text r.url)
    case created => exact optional_found rfl hcreated
    case updated => exact optional_found rfl hupdated

theorem areDated_of_read {j : Json} {r : WorkspaceRecord} (h : read j = .ok r) :
    Field.AreDated r.createdAt r.updatedAt := by
  cases j with
  | object fs =>
    have hfields : ofFields fs = .ok r := h
    unfold ofFields at hfields
    obtain ⟨make, updated, hmake, hupdated, rfl⟩ := of_seq hfields
    obtain ⟨make, created, hmore, hcreated, rfl⟩ := of_seq hmake
    obtain ⟨make, url, hplaced, -, rfl⟩ := of_seq hmore
    obtain ⟨make, workspace, hstated, -, rfl⟩ := of_seq hplaced
    obtain ⟨make, status, howned, -, rfl⟩ := of_seq hstated
    obtain ⟨make, session, hnamed, -, rfl⟩ := of_seq howned
    obtain ⟨make, name, hid, -, rfl⟩ := of_seq hnamed
    obtain ⟨id, -, rfl⟩ := of_map hid
    exact ⟨Field.dated_of_optional hcreated, Field.dated_of_optional hupdated⟩
  | _ => cases h

/-- The names of the fields of a record. -/
def keys : List (List String) :=
  [["id"], ["name"], ["sessionId", "session_id"], ["status"], ["coderWorkspaceId", "coder_workspace_id"],
    ["workspaceUrl", "workspace_url"], ["createdAt", "created_at"], ["updatedAt", "updated_at"]]

theorem readsOnly : ReadsOnly keys read := by
  intro fs gs h
  simp only [keys, List.forall_mem_cons, List.not_mem_nil, false_implies, implies_true, and_true] at h
  show ofFields fs = ofFields gs
  unfold ofFields required Named.optional
  simp only [h]

theorem spellings_json (r : WorkspaceRecord) :
    spellings json r = [("sessionId", "session_id"), ("coderWorkspaceId", "coder_workspace_id"),
      ("workspaceUrl", "workspace_url"), ("createdAt", "created_at"), ("updatedAt", "updated_at")] := rfl

theorem survives : Survives read json :=
  readsOnly.survives spellings_json (by decide) fun _ _ h style => read_json (areDated_of_read h) style

end WorkspaceRecord

namespace RecordTemplate

theorem read_json (t : RecordTemplate) (style : KeyStyle) : read (t.json style) = .ok t := by
  rw [read, json, Json.checkFields, ofFields]
  cases style
  all_goals
    refine ok_seq (ok_seq (ok_seq (ok_seq (ok_seq (ok_map ?id) ?name) ?description) ?version) ?icon) ?flag
    case id => exact required_found rfl rfl
    case name => exact optional_found rfl rfl
    case description => exact optional_found rfl (Field.orNull_text t.description)
    case version => exact optional_found rfl (Field.orNull_text t.version)
    case icon => exact optional_found rfl (Field.orNull_text t.icon)
    case flag => exact optional_found rfl rfl

/-- The names of the fields of a listed template. -/
def keys : List (List String) :=
  [["id"], ["name"], ["description"], ["version"], ["icon"], ["isDefault", "is_default"]]

theorem readsOnly : ReadsOnly keys read := by
  intro fs gs h
  simp only [keys, List.forall_mem_cons, List.not_mem_nil, false_implies, implies_true, and_true] at h
  show ofFields fs = ofFields gs
  unfold ofFields required Named.optional
  simp only [h]

theorem spellings_json (t : RecordTemplate) : spellings json t = [("isDefault", "is_default")] := rfl

theorem survives : Survives read json :=
  readsOnly.survives spellings_json (by decide) fun _ t _ style => read_json t style

end RecordTemplate

namespace RecordRequest

theorem read_json (r : RecordRequest) (style : KeyStyle) : read (r.json style) = .ok r := by
  rw [read, json, Json.checkFields, ofFields]
  cases style
  all_goals
    refine ok_seq (ok_seq (ok_seq (ok_seq (ok_map ?name) ?session) ?template) ?automatic) ?ttl
    case name => exact required_found rfl rfl
    case session => exact required_found rfl rfl
    case template => exact optional_found rfl (Field.orNull_text r.templateId)
    case automatic => exact optional_found rfl rfl
    case ttl => exact optional_found rfl rfl

/-- The names of the fields of a request. -/
def keys : List (List String) :=
  [["name"], ["sessionId", "session_id"], ["templateId", "template_id"], ["automaticUpdates", "automatic_updates"],
    ["ttlMs", "ttl_ms"]]

theorem readsOnly : ReadsOnly keys read := by
  intro fs gs h
  simp only [keys, List.forall_mem_cons, List.not_mem_nil, false_implies, implies_true, and_true] at h
  show ofFields fs = ofFields gs
  unfold ofFields required Named.optional
  simp only [h]

theorem spellings_json (r : RecordRequest) :
    spellings json r = [("sessionId", "session_id"), ("templateId", "template_id"),
      ("automaticUpdates", "automatic_updates"), ("ttlMs", "ttl_ms")] := rfl

theorem survives : Survives read json :=
  readsOnly.survives spellings_json (by decide) fun _ r _ style => read_json r style

end RecordRequest

/-- **The models of the registry survive their own output.** Whatever was read as a session, a record, a listed template
or a request, in whatever way its values were written, is read as the same again once it is printed, in either style of
keys. Where an object has both spellings of a key, it is read as if only the one in camel case were there. -/
theorem Registry.models_survive :
    Survives Session.read Session.json ∧ Survives WorkspaceRecord.read WorkspaceRecord.json ∧
      Survives RecordTemplate.read RecordTemplate.json ∧ Survives RecordRequest.read RecordRequest.json :=
  ⟨Session.survives, WorkspaceRecord.survives, RecordTemplate.survives, RecordRequest.survives⟩

namespace Session

/-- A session whose fields are written in other ways than they are printed, and one of them a second time, wrongly. -/
def loose : Fields :=
  [("id", .text "a"), ("status", .text "actıve"), ("tags", .null), ("created_at", .bool true),
    ("updated_at", .text "2024-02-29t23:59:59,5-0030"), ("createdAt", .text "86400")]

def strict : Session where
  id := "a"
  name := ""
  status := .active
  tags := []
  createdAt := some ⟨1970, 1, 2, 0, 0, 0, 0, some 0⟩
  updatedAt := some ⟨2024, 2, 29, 23, 59, 59, 500000, some (-30)⟩

theorem read_loose : read (.object loose) = .ok strict := by
  have hcreated : Field.moment (.text "86400") = .ok ⟨1970, 1, 2, 0, 0, 0, 0, some 0⟩ :=
    Field.moment_text (by decide +kernel) (by decide +kernel)
  have hupdated : Field.moment (.text "2024-02-29t23:59:59,5-0030") =
      .ok ⟨2024, 2, 29, 23, 59, 59, 500000, some (-30)⟩ :=
    Field.moment_text (by decide +kernel) (by decide +kernel)
  rw [read, Json.checkFields, ofFields]
  refine ok_seq (ok_seq (ok_seq (ok_seq (ok_seq (ok_map ?id) ?name) ?status) ?tags) ?created) ?updated
  case id => exact required_found rfl rfl
  case name => rfl
  case status => exact required_found rfl rfl
  case tags => exact optional_found rfl rfl
  case created => exact optional_found rfl (congrArg (Checked.map some) hcreated)
  case updated => exact optional_found rfl (congrArg (Checked.map some) hupdated)

end Session

/-- A status in other letters, no list of tags, seconds as text, a distance without a colon, and a key in both
spellings. -/
theorem Registry.models_survive_loose :
    Session.read (.object Session.loose) = .ok Session.strict ∧
      Session.read (Session.strict.json .camel) = .ok Session.strict ∧
      Session.read (Session.strict.json .snake) = .ok Session.strict ∧
      Session.read (.object (Named.without Session.loose "created_at")) = .ok Session.strict := by
  have hread := Session.read_loose
  obtain ⟨hagain, hoverruled⟩ := Registry.models_survive.1
  have hsame := hoverruled Session.strict ("createdAt", "created_at") (by decide +kernel) Session.loose
    (by decide +kernel)
  exact ⟨hread, hagain _ _ hread .camel, hagain _ _ hread .snake, hsame.symm.trans hread⟩

end SessionKeeper

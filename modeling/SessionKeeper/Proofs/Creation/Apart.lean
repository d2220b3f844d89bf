import SessionKeeper.Proofs.Creation.Shown
import SessionKeeper.Proofs.Pass.Run
import SessionKeeper.Proofs.Workspace.Parts

/-!
# Workspaces of different sessions

A creation whose name is taken adopts the workspace of that name. So two sessions are given the same workspace
if their creations ask for the same name, and only then; different ids alone do not prevent that.

* `Creation.GivesApart` : two sessions are given different workspaces; `Creation.given_twice` is a run in which they
  are not.
* `Creation.given_apart` : when two creations give the same workspace.
* `Provider.lawful_of_orderly` : a check of a concrete journal.
-/

namespace SessionKeeper

variable {σ τ : Type}

/-! ## Checking a journal -/

/-- The workspace that an event gives, and the name that was asked for. -/
def Event.gave : Event τ → List (String × Workspace)
  | .sent r (.received reply) =>
    match r.wanted?, reply.isAccepted, Provider.created reply with
    | some name, true, .ok x => [(name, x)]
    | _, _, _ => []
  | _ => []

/-- The workspaces that an event lists if what it fetches is a list of workspaces. -/
def Event.listed : Event τ → List Workspace
  | .sent r (.received reply) => if r.method = "GET" then Provider.listed reply else []
  | _ => []

def Event.shown (js : List (Event τ)) : List Workspace := js.flatMap fun e => e.gave.map (·.2) ++ e.listed

/-- The events give the names that are asked for, and no two workspaces of one name. -/
def Event.Orderly (js : List (Event τ)) : Prop :=
  (∀ e ∈ js, ∀ given ∈ e.gave, given.2.name = given.1) ∧
    ∀ x ∈ Event.shown js, ∀ y ∈ Event.shown js, (x.id = y.id → x.name = y.name) ∧
      (Text.lower x.name = Text.lower y.name → x.id = y.id)

instance (js : List (Event τ)) : Decidable (Event.Orderly js) := inferInstanceAs (Decidable (_ ∧ _))

namespace Provider

variable {p : Provider} {js : List (Event τ)}

theorem Gave.mem {name : String} {x : Workspace} (h : Gave name js x) : ∃ e ∈ js, (name, x) ∈ e.gave := by
  obtain ⟨r, reply, hsent, hwanted, haccepted, hcreated⟩ := h
  refine ⟨_, hsent, ?_⟩
  simp [Event.gave, hwanted, haccepted, hcreated]

theorem Shown.mem {x : Workspace} (h : p.Shown js x) : x ∈ Event.shown js := by
  unfold Event.shown
  rw [List.mem_flatMap]
  rcases h with ⟨name, hgave⟩ | ⟨r, reply, cursor, hsent, hcarries, hx⟩
  · obtain ⟨e, he, hpair⟩ := hgave.mem
    exact ⟨e, he, List.mem_append_left _ (List.mem_map.mpr ⟨_, hpair, rfl⟩)⟩
  · refine ⟨_, hsent, List.mem_append_right _ ?_⟩
    have hget : r.method = "GET" := hcarries.method
    simpa [Event.listed, hget] using hx

/-- A journal is lawful if its events are orderly, since they may show more than the calls that were made. -/
theorem lawful_of_orderly (h : Event.Orderly js) : p.Lawful js where
  named name x hgave := by
    obtain ⟨e, he, hpair⟩ := hgave.mem
    exact h.1 e he _ hpair
  settled x y hx hy := (h.2 x hx.mem y hy.mem).1

theorem oneOfName_of_orderly (h : Event.Orderly js) : p.OneOfName js := by
  intro x y hx hy
  exact (h.2 x hx.mem y hy.mem).2

end Provider

/-! ## Two creations -/

namespace Creation

variable [Timeline τ] [Surroundings σ τ]

/-- With a lawful provider of distinct names, a creation for the one session and a later one for the other return
different workspaces. -/
def GivesApart (c : Creation τ) (s s' : Session) (w : World σ τ) : Prop :=
  ∀ x (v : World σ τ), (c.createFor s).on w = (.ok (some x), v) → ∀ w' : World σ τ, v.journal <:+ w'.journal →
    ∀ x' (v' : World σ τ), (c.createFor s').on w' = (.ok (some x'), v') → c.provider.Lawful v'.journal →
      c.provider.OneOfName v'.journal → x.id ≠ x'.id

end Creation

namespace Rehearsal

/-- The provider gives a workspace to the first session, refuses a second one of the name, and lists the one it
gave. -/
def namesakes : Rehearsal :=
  let named : Json := .object [("id", .text "w"), ("name", .text "ws-0fcfba18-alpha-0000")]
  { plain with
    routes := [
      ("POST /api/v2/users/me/workspaces", [answer 201 named, answer 409 .null]),
      ("GET /api/v2/workspaces", [answer 200 (.list [named])]),
      ("*", [answer 200 .null])] }

end Rehearsal

namespace Creation

/-- Two sessions with different ids, which begin alike, are given the same workspace. -/
theorem given_twice :
    (Session.rehearsed "0fcfba18-b832").id ≠ (Session.rehearsed "0fcfba18-c999").id ∧
      ¬ Keeper.confirming.creation.GivesApart (.rehearsed "0fcfba18-b832") (.rehearsed "0fcfba18-c999")
        Rehearsal.namesakes.world := by
  refine ⟨by decide, fun hapart => ?_⟩
  have hgiven : (Keeper.confirming.creation.createFor (.rehearsed "0fcfba18-b832")).Returns Rehearsal.namesakes.world
      fun o v => ∃ x ∈ o, (Keeper.confirming.creation.createFor (.rehearsed "0fcfba18-c999")).Returns v
        fun o' v' => ∃ x' ∈ o', x.id = x'.id ∧ Event.Orderly v'.journal := by
    decide +kernel
  obtain ⟨_, v, hfirst, x, rfl, hlater⟩ := hgiven.exists_on
  obtain ⟨_, v', hsecond, x', rfl, hsame, horderly⟩ := hlater.exists_on
  exact hapart x v hfirst v (List.suffix_refl _) x' v' hsecond (Provider.lawful_of_orderly horderly)
    (Provider.oneOfName_of_orderly horderly) hsame

variable [Timeline τ] [Surroundings σ τ]
variable {c : Creation τ} {s s' : Session} {w v w' v' : World σ τ} {x x' : Workspace}

/-- **Two creations give the same workspace only if they ask for the same name.** If the names differ, then so do
the workspaces, and the names under which they are recorded. If the names agree, and the provider gives none twice,
then the second session is given the workspace of the first, and it is recorded for both. The names agree if and only
if the ids agree in their short form, the names of the sessions in their label, and the times up to whole tens of
seconds. -/
theorem given_apart (hfirst : (c.createFor s).on w = (.ok (some x), v)) (hlater : v.journal <:+ w'.journal)
    (hsecond : (c.createFor s').on w' = (.ok (some x'), v')) (hlawful : c.provider.Lawful v'.journal) :
    (c.nameFor s w ≠ c.nameFor s' w' → x.id ≠ x'.id ∧ ∀ t t', (recordOf s x t).name ≠ (recordOf s' x' t').name) ∧
    (c.nameFor s w = c.nameFor s' w' → c.provider.OneOfName v'.journal →
      x.id = x'.id ∧ ∀ t t', (recordOf s x t).name = (recordOf s' x' t').name) ∧
    (c.nameFor s w = c.nameFor s' w' ↔ shortId s.id = shortId s'.id ∧
      WorkspaceName.labelChars s.name.toList = WorkspaceName.labelChars s'.name.toList ∧
      c.timeOf w % 10000 = c.timeOf w' % 10000) := by
  have hgrown : v.journal <:+ v'.journal := by
    have hadvance : Advance ⟨fun _ => True, fun _ => True⟩ w' ((c.createFor s').on w').2 :=
      c.within_createFor (fun _ _ => trivial) trivial trivial w'
    rw [hsecond] at hadvance
    exact hlater.trans hadvance.suffix
  obtain ⟨hshown, hname⟩ := createFor_shown hfirst hgrown hlawful
  obtain ⟨hshown', hname'⟩ := createFor_shown hsecond (List.suffix_refl _) hlawful
  -- what is found may differ from what is asked for in the case of its letters, but no two names asked for do
  have hasked (h : x.name = x'.name) : c.nameFor s w = c.nameFor s' w' := by
    rw [← hname, ← hname', h]
  refine ⟨fun hnames => ⟨fun hids => ?_, fun t t' hrecords => ?_⟩, fun hnames hone => ?_, ?_⟩
  · exact hnames (hasked (hlawful.settled x x' hshown hshown' hids))
  · exact hnames (hasked hrecords)
  · have hids : x.id = x'.id := hone x x' hshown hshown' (hname.trans (hnames.trans hname'.symm))
    exact ⟨hids, fun _ _ => hlawful.settled x x' hshown hshown' hids⟩
  · exact WorkspaceName.generate_eq_iff _ _ _ _ _ _

end Creation

/-- The provider gives a workspace to each of two sessions. -/
def Rehearsal.strangers : Rehearsal :=
  let named (id name : String) : Json := .object [("id", .text id), ("name", .text name)]
  { plain with
    routes := [
      ("POST /api/v2/users/me/workspaces",
        [answer 201 (named "v" "ws-0fcfba18-alpha-0000"), answer 201 (named "w" "ws-a1-alpha-0000")]),
      ("*", [answer 200 .null])] }

theorem Creation.given_apart_strangers :
    let c := Keeper.confirming.creation
    ∃ x v x' v', (c.createFor (.rehearsed "0fcfba18-b832")).on Rehearsal.strangers.world = (.ok (some x), v) ∧
      (c.createFor (.rehearsed "a1")).on v = (.ok (some x'), v') ∧ c.provider.Lawful v'.journal ∧ x.id ≠ x'.id := by
  intro c
  have hgiven : c.createFor (.rehearsed "0fcfba18-b832") |>.Returns Rehearsal.strangers.world
      fun o v => ∃ x ∈ o, c.createFor (.rehearsed "a1") |>.Returns v
        fun o' v' => ∃ x' ∈ o', Event.Orderly v'.journal := by
    decide +kernel
  obtain ⟨_, v, hfirst, x, rfl, hlater⟩ := hgiven.exists_on
  obtain ⟨_, v', hsecond, x', rfl, horderly⟩ := hlater.exists_on
  have hlawful : c.provider.Lawful v'.journal := Provider.lawful_of_orderly horderly
  obtain ⟨hstrangers, -, hnames⟩ := given_apart hfirst (List.suffix_refl _) hsecond hlawful
  have hshort : shortId "0fcfba18-b832" ≠ shortId "a1" := by decide
  exact ⟨x, v, x', v', hfirst, hsecond, hlawful, (hstrangers fun hsame => hshort (hnames.mp hsame).1).1⟩

end SessionKeeper

import SessionKeeper.Proofs.Pass.Shortcut
import SessionKeeper.Proofs.Pass.Starts
import SessionKeeper.Proofs.Pass.Steady
import SessionKeeper.Proofs.Pass.Unrecorded
import SessionKeeper.Proofs.Workspace.Length

/-!
# Sessions whose generated names begin alike

Generated names carry only the beginning of an id, so a session sees workspaces of others that share it. Where records
are asked about, such a workspace counts only if a record names it, and else the session is treated as if it were not
there.

* `Workspace.IsNeighbour` : a listed workspace of a generated name that may be another session's.
* `Scene.counted_confirmed` : what counts where records are asked about.
* `Scene.mem_counted_iff` : when a neighbour counts.
* `Scene.without`, `Scene.counted_without` : a neighbour that does not count might as well be missing.
* `Keeper.neighbour_matters` : runs in which a neighbour without a record does play a part.
* `Keeper.neighbour_apart` : what checks make of neighbours.
-/

namespace SessionKeeper

open Text Ownership

variable {σ τ : Type}

/-- A listed workspace whose name was generated, for whatever session, while its template does not carry the whole id
of this one. No other listed workspace has its id. -/
structure Workspace.IsNeighbour (s : Session) (all : List Workspace) (x : Workspace) : Prop where
  generated : ∃ id label time, x.name = WorkspaceName.generate id label time
  template : occursIn (legacyMark ++ lowerChars s.id.toList) (lowerChars x.templateName.toList) = false
  listed : x ∈ all
  unique : ∀ y ∈ all, y.id = x.id → y = x

/-! ## Candidates -/

namespace Keeper

variable {s : Session} {all : List Workspace} {x : Workspace}

theorem mem_of_mem_candidates (h : x ∈ candidates s all) : x ∈ all := (List.mem_filter.mp h).1

variable (hid : 28 ≤ s.id.length) (hx : x.IsNeighbour s all)

include hid hx

theorem isExplicit_neighbour : isExplicit s x = false := by
  obtain ⟨id, label, time, hname⟩ := hx.generated
  unfold isExplicit
  rw [hname]
  exact WorkspaceName.ownsExplicitly_generate id label time hid hx.template

theorem mem_candidates_neighbour : x ∈ candidates s all ↔ (nameStem s.id).toList <+: x.name.toList := by
  obtain ⟨id, label, time, hname⟩ := hx.generated
  have hbelongs := WorkspaceName.belongs_generate_iff id label time hid hx.template
  rw [← hname] at hbelongs
  unfold candidates
  rw [List.mem_filter, hbelongs]
  exact and_iff_right hx.listed

theorem sharesExplicitId_neighbour : sharesExplicitId s (candidates s all) x = false := by
  unfold sharesExplicitId
  rw [List.any_eq_false]
  intro y hy hboth
  rw [Bool.and_eq_true, beq_iff_eq] at hboth
  obtain ⟨hexplicit, hsame⟩ := hboth
  rw [hx.unique y (mem_of_mem_candidates hy) hsame, isExplicit_neighbour hid hx] at hexplicit
  cases hexplicit

theorem counts_neighbour (rs : List WorkspaceRecord) : counts s all rs x = isRecorded rs x := by
  unfold counts
  rw [sharesExplicitId_neighbour hid hx, Bool.false_or]

end Keeper

/-! ## Scenes -/

namespace Scene

variable {k : Keeper τ} {c : Scene} {s : Session} {x : Workspace}

/-- Where records are asked about, each candidate counts for itself; that they need not be asked about where all
candidates carry the whole id makes no difference. -/
theorem counted_confirmed (hconfirms : k.confirms = true) : c.counted k s =
    (Keeper.candidates s c.workspaces).filter (Keeper.counts s c.workspaces (c.records s.id)) := by
  unfold counted
  cases hsettled : k.isSettled s c.workspaces with
  | false => rw [if_neg Bool.false_ne_true]
  | true =>
    rw [if_pos rfl]
    unfold Keeper.isSettled at hsettled
    rw [hconfirms, Bool.not_true, Bool.false_or] at hsettled
    have hall := Keeper.isExplicit_of_allExplicit hsettled
    refine (List.filter_eq_self.mpr fun y hy => ?_).symm
    unfold Keeper.counts
    rw [Keeper.sharesExplicitId_of_isExplicit hy (hall y hy), Bool.true_or]

theorem mem_of_mem_counted (h : x ∈ c.counted k s) : x ∈ c.workspaces := by
  unfold counted at h
  split_ifs at h
  · exact Keeper.mem_of_mem_candidates h
  · exact Keeper.mem_of_mem_candidates (List.mem_filter.mp h).1

/-- The scene without the workspaces that have the id of this one. -/
def without (c : Scene) (x : Workspace) : Scene := { c with workspaces := c.workspaces.filter (·.id != x.id) }

variable (hconfirms : k.confirms = true) (hid : 28 ≤ s.id.length) (hx : x.IsNeighbour s c.workspaces)

include hconfirms hid hx

theorem mem_counted_iff : x ∈ c.counted k s ↔
    (nameStem s.id).toList <+: x.name.toList ∧ Keeper.isRecorded (c.records s.id) x = true := by
  rw [counted_confirmed hconfirms, List.mem_filter, Keeper.mem_candidates_neighbour hid hx,
    Keeper.counts_neighbour hid hx]

theorem counted_without (hrecord : Keeper.isRecorded (c.records s.id) x = false) :
    (c.without x).counted k s = c.counted k s := by
  rw [counted_confirmed hconfirms, counted_confirmed hconfirms]
  have hcandidates : Keeper.candidates s (c.without x).workspaces =
      (Keeper.candidates s c.workspaces).filter (·.id != x.id) := by
    unfold Keeper.candidates without
    rw [List.filter_filter, List.filter_filter]
    exact List.filter_congr fun y _ => Bool.and_comm _ _
  rw [hcandidates, List.filter_filter]
  refine List.filter_congr fun y hy => ?_
  by_cases hsame : y.id = x.id
  · -- the neighbour itself, which does not count
    obtain rfl : y = x := hx.unique y (Keeper.mem_of_mem_candidates hy) hsame
    rw [Keeper.counts_neighbour hid hx, hrecord, bne_self_eq_false, Bool.and_false]
  · -- any other one: what carries the whole id and has the id of this one is not the neighbour
    have hother : (y.id != x.id) = true := bne_iff_ne.mpr hsame
    rw [hother, Bool.and_true]
    unfold Keeper.counts Keeper.sharesExplicitId
    rw [hcandidates, List.any_filter]
    congr 1
    refine List.any_congr rfl fun z => ?_
    by_cases hz : z.id = y.id
    · rw [hz, hother, Bool.true_and]
    · rw [beq_false_of_ne hz, Bool.and_false, Bool.and_false]

end Scene

/-! ## Checks -/

namespace Check

variable [Timeline τ] [Surroundings σ τ]

/-- Of the workspaces with generated names and unambiguous ids whose template does not hold the whole id of the session
in small letters, those count that begin like the names of the session and are named by a record. -/
def CountsByRecord (k : Keeper τ) (t : Check σ τ) : Prop :=
  ∀ all u, k.provider.workspaces.on (t.world k) = (.ok all, u) → ∀ x ∈ all,
    (∃ id label time, x.name = WorkspaceName.generate id label time) →
      occursIn (legacyMark ++ lowerChars t.session.id.toList) x.templateName.toList = false →
        (∀ y ∈ all, y.id = x.id → y = x) → ∀ ws v, (k.owned t.session).on (t.world k) = (.ok ws, v) →
          (x ∈ ws ↔ (nameStem t.session.id).toList <+: x.name.toList ∧
            ∃ rs z, (k.registry.records t.session.id).on u = (.ok rs, z) ∧ Keeper.isRecorded rs x = true)

end Check

def Session.whole : Session := .rehearsed "0fcfba18-b832-4ab4-9f4b-3c1b7a1e6f21"

/-- Another session, whose id begins like that of the first. -/
def Session.twin : Session := .rehearsed "0fcfba18-9c11-4d4c-8a06-5b0e2f4d7a93"

/-- What the provider tells of the workspace of the twin, if it was made from that template. -/
def Rehearsal.twinWorkspace (templateName : String) : Json :=
  .object [("id", .text "w"), ("name", .text (WorkspaceName.generate Session.twin.id Session.twin.name 0)),
    ("template_name", .text templateName), ("latest_build", .object [("status", .text "stopped")])]

/-- The first session is active; the provider lists these workspaces and answers so to a creation, and the registry
answers so when its records are asked about. -/
def Rehearsal.neighboured (listed : List Json) (records creation : Exchange) : Rehearsal :=
  { plain with
    routes := [
      ("GET /api/v1/sessions/status/ACTIVE", [answer 200 (.list [.object [("id", .text Session.whole.id),
        ("name", .text Session.whole.name), ("status", .text "ACTIVE")]])]),
      ("GET /api/v2/workspaces", [answer 200 (.list listed)]),
      ("GET /api/v1/workspaces", [records]),
      ("POST /api/v2/users/me/workspaces", [creation]),
      ("*", [answer 200 .null])] }

namespace Scene

def twinListed : Workspace :=
  ⟨"w", WorkspaceName.generate Session.twin.id Session.twin.name 0, "stopped", "unknown", "", "", "", "", none, none,
    none⟩

def twin : Scene := ⟨[twinListed], fun _ => []⟩

end Scene

namespace Keeper

/-- A neighbour without a record counts after all if its template holds the id in capitals. It keeps the session from
getting a workspace of its own if the records cannot be read, and is started if a creation is answered with it. -/
theorem neighbour_matters :
    let capitals := Rehearsal.twinWorkspace ("SESSION-" ++ Text.upper Session.whole.id)
    let unread := Rehearsal.answer 500 .null
    let taken := Rehearsal.answer 409 .null
    let world (listed : List Json) (records : Exchange) := (Rehearsal.neighboured listed records taken).world
    (∃ t ∈ confirming.checks [⟨.active, id⟩] (world [capitals] (Rehearsal.answer 200 (.list []))),
      28 ≤ t.session.id.length ∧ ¬ t.CountsByRecord confirming) ∧
    ((∃ t ∈ confirming.checks [⟨.active, id⟩] (world [Rehearsal.twinWorkspace ""] unread),
        t.isRejected confirming = false ∧ t.AsksNothing confirming) ∧
      ∃ t ∈ confirming.checks [⟨.active, id⟩] (world [] unread), ¬ t.AsksNothing confirming) ∧
    ∃ t ∈ confirming.checks [⟨.active, id⟩]
        (world [Rehearsal.twinWorkspace ""] (Rehearsal.answer 200 (.list []))),
      (confirming.owned t.session).Returns (t.world confirming) (fun ws _ => ws = []) ∧
        ¬ t.StartsNothing confirming := by
  intro capitals unread taken world
  refine ⟨?_, ⟨?_, ?_⟩, ?_⟩
  · have hcounted : ∃ t ∈ confirming.checks [⟨.active, id⟩] (world [capitals] (Rehearsal.answer 200 (.list []))),
        28 ≤ t.session.id.length ∧ confirming.provider.workspaces.Returns (t.world confirming) fun all u =>
          all.length = 1 ∧
          (∀ x ∈ all, x.name = WorkspaceName.generate Session.twin.id Session.twin.name 0 ∧
            occursIn (legacyMark ++ lowerChars t.session.id.toList) x.templateName.toList = false) ∧
          Yields ((confirming.registry.records t.session.id).on u).1 (fun rs => rs = []) ∧
          (confirming.owned t.session).Returns (t.world confirming) fun ws _ => ws = all := by
      decide +kernel
    obtain ⟨t, ht, hid, hlisted⟩ := hcounted
    obtain ⟨all, u, hlist, hone, hall, hrecords, hread⟩ := hlisted.exists_on
    obtain ⟨ws, v, howned, rfl⟩ := hread.exists_on
    obtain ⟨x, rfl⟩ := List.length_eq_one_iff.mp hone
    have hx : x ∈ [x] := List.mem_singleton_self x
    obtain ⟨hname, htemplate⟩ := hall x hx
    refine ⟨t, ht, hid, fun hcounts => ?_⟩
    have hunique : ∀ y ∈ [x], y.id = x.id → y = x := fun y hy _ => List.mem_singleton.mp hy
    have hiff := hcounts [x] u hlist x hx ⟨_, _, _, hname⟩ htemplate hunique [x] v howned
    obtain ⟨-, rs, z, hanswer, hrecorded⟩ := hiff.mp hx
    rw [hrecords rs (by rw [hanswer])] at hrecorded
    cases hrecorded
  · decide +kernel
  · decide +kernel
  · decide +kernel

variable [Timeline τ] [Surroundings σ τ]

/-- **A session is kept apart from its neighbours by the records.** Let records be asked about, let the id of the
session have at least 28 characters, and let a check list a workspace with a generated name whose template, letter case
aside, does not carry that id. The workspace counts for the session if and only if its name begins like the names of
the session and a record of the session names it. If none does, the check does what its pass answers to the others:
it tries a creation if there are no others, and does not start the neighbour. If the workspaces of the session cannot
be read, among them its records, the check does nothing but read. -/
theorem neighbour_apart (k : Keeper τ) (hconfirms : k.confirms = true) {t : Check σ τ} {c : Scene} (hsees : t.Sees k c)
    (hid : 28 ≤ t.session.id.length) {x : Workspace} (hx : x.IsNeighbour t.session c.workspaces) :
    (∀ ws v, (k.owned t.session).on (t.world k) = (.ok ws, v) →
      (x ∈ ws ↔ (nameStem t.session.id).toList <+: x.name.toList ∧
        isRecorded (c.records t.session.id) x = true)) ∧
    (isRecorded (c.records t.session.id) x = false → t.isRejected k = false →
      ∀ ws v, (k.owned t.session).on (t.world k) = (.ok ws, v) →
        ws = (c.without x).counted k t.session ∧
        (ws = [] → t.report.pass ≠ .inactive → t.Creates k v) ∧
        ∃ ds outcome z, t.report.pass.Answers ws ds outcome ∧ Changes k t.session ds v z ∧
          t.after k = ((k.guard.record t.session.circuitKey outcome).on z).2 ∧
          ∀ started, .start x.id started ∉ ds) ∧
    ∀ e v, (k.owned t.session).on (t.world k) = (.error e, v) →
      OnlySent (Request.IsQuiet k.provider.keyring) t.before (t.after k) := by
  refine ⟨fun ws v hread => ?_, fun hrecord hpassed ws v hread => ⟨?_, ?_, ?_⟩, fun e v hread => ?_⟩
  · rw [hsees.counted hread]
    exact Scene.mem_counted_iff hconfirms hid hx
  · rw [hsees.counted hread, Scene.counted_without hconfirms hid hx hrecord]
  · intro hnone hpass
    rw [hnone] at hread
    exact creates_of_owned_nil hpassed hpass hread
  · obtain ⟨ds, outcome, z, hanswer, hchanges, hafter, -⟩ := Check.answered hpassed hread
    refine ⟨ds, outcome, z, hanswer, hchanges, hafter, fun started hd => ?_⟩
    rcases hanswer.mem hd with ⟨-, updated, heq⟩ | ⟨-, created, heq⟩ | ⟨-, y, hy, -, started', heq⟩
    · cases heq
    · cases heq
    · -- what is started counts, and has the id of the neighbour only if it is the neighbour
      have hsame : y.id = x.id := (Change.start.inj heq).1.symm
      have hcounted : y ∈ c.counted k t.session := by
        rw [← hsees.counted hread]
        exact hy
      rw [hx.unique y (Scene.mem_of_mem_counted hcounted) hsame, Scene.mem_counted_iff hconfirms hid hx, hrecord]
        at hcounted
      cases hcounted.2
  · exact Check.onlySent_unread hread

/-- The workspace of the twin has no record, so the session tries to get one of its own. -/
theorem neighbour_apart_twin :
    ∃ t ∈ confirming.checks [⟨.active, id⟩]
        (Rehearsal.neighboured [Rehearsal.twinWorkspace ""] (Rehearsal.answer 200 (.list []))
          (Rehearsal.answer 409 .null)).world,
      (∀ ws v, (confirming.owned t.session).on (t.world confirming) = (.ok ws, v) → Scene.twinListed ∉ ws) ∧
        ∃ v, t.Creates confirming v := by
  have hseen : ∃ t ∈ confirming.checks [⟨.active, id⟩]
        (Rehearsal.neighboured [Rehearsal.twinWorkspace ""] (Rehearsal.answer 200 (.list []))
          (Rehearsal.answer 409 .null)).world,
      t.Sees confirming .twin ∧ 28 ≤ t.session.id.length ∧ t.isRejected confirming = false ∧
        t.report.pass ≠ .inactive ∧
        occursIn (legacyMark ++ lowerChars t.session.id.toList)
          (lowerChars Scene.twinListed.templateName.toList) = false ∧
        (confirming.owned t.session).Returns (t.world confirming) fun ws _ => ws = [] := by
    decide +kernel
  obtain ⟨t, ht, hsees, hid, hpassed, hpass, htemplate, hread⟩ := hseen
  obtain ⟨ws, v, howned, hnone⟩ := hread.exists_on
  have hx : Scene.twinListed.IsNeighbour t.session Scene.twin.workspaces :=
    ⟨⟨_, _, _, rfl⟩, htemplate, List.mem_singleton_self _, fun y hy _ => List.mem_singleton.mp hy⟩
  obtain ⟨hcounts, hother, -⟩ := neighbour_apart confirming rfl hsees hid hx
  obtain ⟨-, hcreates, -⟩ := hother rfl hpassed ws v howned
  refine ⟨t, ht, fun ws' v' howned' hmem => ?_, v, hcreates hnone hpass⟩
  have hrecorded := ((hcounts ws' v' howned').mp hmem).2
  cases hrecorded

end Keeper

end SessionKeeper

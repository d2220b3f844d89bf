import SessionKeeper.Proofs.Creation.Stages
import SessionKeeper.Proofs.Pass.Owned

/-!
# Workspaces without a record

A creation returns its workspace even if the record of it could not be written. Later passes recognise such a
workspace if it carries the whole id of the session; one that is known by the beginning of its name alone does not
count until a record confirms it.

* `Check.StillLists` : a check sees the workspace under the name it was created with.
* `Keeper.RecognisesUnrecorded` : no later check asks for another workspace; `Keeper.unrecorded_forgotten` is a run
  in which one does.
* `Check.Creates` : the check tries a creation.
* `Keeper.unrecorded_recognised` : when the workspace is recognised, and what is done when it is not.
-/

namespace SessionKeeper

variable {σ τ : Type}

namespace Check

variable [Timeline τ] [Surroundings σ τ]

/-- If the check can list the workspaces, that of the id is among them, with that name in letters of any case. -/
def StillLists (k : Keeper τ) (id name : String) (t : Check σ τ) : Prop :=
  Yields (k.provider.workspaces.on (t.world k)).1 fun all => ∃ y ∈ all, y.id = id ∧ Text.lower y.name = name

instance (k : Keeper τ) (id name : String) (t : Check σ τ) : Decidable (t.StillLists k id name) :=
  inferInstanceAs (Decidable (Yields _ fun all : List Workspace => ∃ y ∈ all, y.id = id ∧ Text.lower y.name = name))

/-- In this world the check tries a creation; what it does then ends the check. -/
def Creates (k : Keeper τ) (t : Check σ τ) (w : World σ τ) : Prop :=
  ∃ created ds outcome v, Changes k t.session (.create created :: ds) w v ∧
    t.after k = ((k.guard.record t.session.circuitKey (outcome : Except Fault Unit)).on v).2

end Check

namespace Keeper

variable [Timeline τ] [Surroundings σ τ]

/-- After a creation in this world whose record could not be written, no new or active pass that still lists the
workspace asks for another one for the session. -/
def RecognisesUnrecorded (k : Keeper τ) (s : Session) (w : World σ τ) : Prop :=
  ∀ x v, k.creation.unrecorded? s w = some (x, v) → ∀ rs, ∀ t ∈ k.checks rs v, t.session.id = s.id →
    t.report.pass ≠ .inactive → t.StillLists k x.id (k.creation.nameFor s w) → t.AsksNothing k

end Keeper

/-- The provider accepts a workspace for the session and lists it, but the registry refuses its record and holds
none; one pass follows, for the active session. -/
def Rehearsal.unrecorded (s : Session) : Rehearsal :=
  let session : Json := .object [("id", .text s.id), ("name", .text s.name), ("status", .text "ACTIVE")]
  let named : Json := .object [("id", .text "w"), ("name", .text (WorkspaceName.generate s.id s.name 0))]
  { plain with
    routes := [
      ("GET /api/v1/sessions/status/ACTIVE", [answer 200 (.list [session])]),
      ("GET /api/v2/workspaces", [answer 200 (.list [named])]),
      ("GET /api/v1/workspaces", [answer 200 (.list [])]),
      ("POST /api/v2/users/me/workspaces", [answer 201 named]),
      ("POST /api/v1/workspaces", [answer 500 .null]),
      ("*", [answer 200 .null])] }

def Session.long : Session := .rehearsed "0fcfba18-b832"

def Session.short : Session := .rehearsed "a1"

/-- The workspace of a long id is listed under the name it was created with, and yet the next active pass asks for
another one. -/
theorem Keeper.unrecorded_forgotten :
    Session.long.id ≠ "" ∧
      ¬ Keeper.confirming.RecognisesUnrecorded Session.long (Rehearsal.unrecorded .long).world := by
  refine ⟨by decide, fun hrecognises => ?_⟩
  have hasks : ∃ made ∈ Keeper.confirming.creation.unrecorded? Session.long (Rehearsal.unrecorded .long).world,
      ∃ t ∈ Keeper.confirming.checks [⟨.active, id⟩] made.2, t.session.id = Session.long.id ∧
        t.report.pass ≠ .inactive ∧ t.StillLists .confirming made.1.id
          (Keeper.confirming.creation.nameFor .long (Rehearsal.unrecorded .long).world) ∧
        ¬ t.AsksNothing .confirming := by
    decide +kernel
  obtain ⟨⟨x, v⟩, hunrecorded, t, ht, hsame, hpass, hlists, hmore⟩ := hasks
  exact hmore (hrecognises x v hunrecorded [⟨.active, id⟩] t ht hsame hpass hlists)

namespace Keeper

variable [Timeline τ] [Surroundings σ τ] {k : Keeper τ} {t : Check σ τ}

theorem creates_of_owned_nil {z : World σ τ} (hpassed : t.isRejected k = false) (hpass : t.report.pass ≠ .inactive)
    (hread : (k.owned t.session).on (t.world k) = (.ok [], z)) : t.Creates k z := by
  obtain ⟨ds, outcome, v, hanswer, hchanges, hafter, -⟩ := Check.answered hpassed hread
  cases hp : t.report.pass with
  | new =>
    rw [hp] at hanswer
    rcases hanswer.2 rfl with ⟨created, updated, -, rfl, -⟩ | ⟨e, -, rfl, -⟩
    · exact ⟨created, _, outcome, v, hchanges, hafter⟩
    · exact ⟨.error e, _, outcome, v, hchanges, hafter⟩
  | active =>
    rw [hp] at hanswer
    obtain ⟨created, rfl, -⟩ := hanswer.1 rfl
    exact ⟨created, _, outcome, v, hchanges, hafter⟩
  | inactive => exact absurd hp hpass

/-- **A workspace without a record is recognised by its whole id, not by the beginning of its name.** Let the record
of a created workspace fail; the workspace is returned all the same. Let a later new or active pass list it under the
name it was created with. If all candidates count anyway, if the workspace carries the whole id, or if the records
cannot be read or name it, then no other workspace is asked for. If the records can be read and no candidate counts,
a creation is tried again. -/
theorem unrecorded_recognised (k : Keeper τ) (s : Session) (w : World σ τ) (hid : s.id ≠ "") :
    ∀ x v, k.creation.unrecorded? s w = some (x, v) →
      (k.creation.createFor s).on w = (.ok (some x), v) ∧
      ∀ rs, ∀ t ∈ k.checks rs v, t.session.id = s.id → t.report.pass ≠ .inactive →
        ∀ all u, k.provider.workspaces.on (t.world k) = (.ok all, u) →
          ∀ y ∈ all, y.id = x.id → Text.lower y.name = k.creation.nameFor s w →
            (k.isSettled t.session all = true ∨ isExplicit t.session y = true ∨
              Yields ((k.registry.records t.session.id).on u).1 (fun rs => isRecorded rs y = true) →
                t.AsksNothing k) ∧
            (∀ rs z, t.isRejected k = false → k.isSettled t.session all = false →
              (k.registry.records t.session.id).on u = (.ok rs, z) →
                (∀ y' ∈ candidates t.session all, counts t.session all rs y' = false) → t.Creates k z) := by
  intro x v hunrecorded
  refine ⟨Creation.createFor_unrecorded hunrecorded, ?_⟩
  intro rs t _ hsame hpass all u hlist y hy _ hname
  have hcandidate : y ∈ candidates t.session all := by
    have hbelongs : belongs s.id y.name y.templateName = true := WorkspaceName.belongs_of_lower_eq hid hname _
    rw [← hsame] at hbelongs
    exact List.mem_filter.mpr ⟨hy, hbelongs⟩
  refine ⟨fun hrecognised => ?_, fun rs z hpassed hsettled hrecords hnone => ?_⟩
  · apply Check.asksNothing
    intro ws z hread
    refine owned_ne_nil hread hlist hcandidate fun rs u' hsettled hrecords => ?_
    unfold counts
    rcases hrecognised with hall | hexplicit | hrecorded
    · rw [hall] at hsettled
      cases hsettled
    · have hshares : sharesExplicitId t.session (candidates t.session all) y = true :=
        List.any_eq_true.mpr ⟨y, hcandidate, by rw [hexplicit, beq_self_eq_true, Bool.and_true]⟩
      rw [hshares, Bool.true_or]
    · rw [hrecorded rs (by rw [hrecords]), Bool.or_true]
  · have hread := owned_confirmed hlist hsettled hrecords
    rw [List.filter_eq_nil_iff.mpr fun y' hy' => by simp [hnone y' hy']] at hread
    exact creates_of_owned_nil hpassed hpass hread

/-- The workspace of a short id is recognised; that of a long one is not, and a creation is tried again. -/
theorem unrecorded_recognised_short :
    (∃ made ∈ confirming.creation.unrecorded? .short (Rehearsal.unrecorded .short).world,
      ∃ t ∈ confirming.checks [⟨.active, id⟩] made.2, t.AsksNothing confirming) ∧
    ∃ made ∈ confirming.creation.unrecorded? .long (Rehearsal.unrecorded .long).world,
      ∃ t ∈ confirming.checks [⟨.active, id⟩] made.2, ∃ z, t.Creates confirming z := by
  refine ⟨?_, ?_⟩
  · have hseen : ∃ made ∈ confirming.creation.unrecorded? .short (Rehearsal.unrecorded .short).world,
        ∃ t ∈ confirming.checks [⟨.active, id⟩] made.2, t.session.id = Session.short.id ∧ t.report.pass ≠ .inactive ∧
          confirming.provider.workspaces.Returns (t.world confirming) fun all _ =>
            confirming.isSettled t.session all = true ∧ ∃ y ∈ all, y.id = made.1.id ∧
              Text.lower y.name = confirming.creation.nameFor .short (Rehearsal.unrecorded .short).world := by
      decide +kernel
    obtain ⟨⟨x, v⟩, hmade, t, ht, hsame, hpass, hlisted⟩ := hseen
    obtain ⟨all, u, hlist, hsettled, y, hy, hyid, hname⟩ := hlisted.exists_on
    obtain ⟨-, hlater⟩ :=
      unrecorded_recognised confirming .short (Rehearsal.unrecorded .short).world (by decide) x v hmade
    have hrecognised := hlater _ t ht hsame hpass all u hlist y hy hyid hname
    exact ⟨⟨x, v⟩, hmade, t, ht, hrecognised.1 (Or.inl hsettled)⟩
  · have hunseen : ∃ made ∈ confirming.creation.unrecorded? .long (Rehearsal.unrecorded .long).world,
        ∃ t ∈ confirming.checks [⟨.active, id⟩] made.2, t.session.id = Session.long.id ∧ t.report.pass ≠ .inactive ∧
          t.isRejected confirming = false ∧
          confirming.provider.workspaces.Returns (t.world confirming) fun all u =>
            confirming.isSettled t.session all = false ∧
            (∃ y ∈ all, y.id = made.1.id ∧
              Text.lower y.name = confirming.creation.nameFor .long (Rehearsal.unrecorded .long).world) ∧
            (confirming.registry.records t.session.id).Returns u fun rs _ =>
              ∀ y' ∈ candidates t.session all, counts t.session all rs y' = false := by
      decide +kernel
    obtain ⟨⟨x, v⟩, hmade, t, ht, hsame, hpass, hpassed, hlisted⟩ := hunseen
    obtain ⟨all, u, hlist, hsettled, ⟨y, hy, hyid, hname⟩, hread⟩ := hlisted.exists_on
    obtain ⟨rs, z, hrecords, hnone⟩ := hread.exists_on
    obtain ⟨-, hlater⟩ :=
      unrecorded_recognised confirming .long (Rehearsal.unrecorded .long).world (by decide) x v hmade
    have hforgotten := hlater _ t ht hsame hpass all u hlist y hy hyid hname
    exact ⟨⟨x, v⟩, hmade, t, ht, z, hforgotten.2 rs z hpassed hsettled hrecords hnone⟩

end Keeper

end SessionKeeper

import SessionKeeper.Proofs.Pass.Owned

/-!
# A session gets one workspace

Once the provider has accepted a request for a workspace of a session, and as long as it lists the workspace,
no later check asks for another one.

* `Check.Lists`, `Check.Recalls` : what a check sees of a workspace, at the provider and in the registry.
* `Check.asksNothing_of_listed` : a check that sees the workspace asks for none.
* `Keeper.created_once` : the checks of a run.
-/

namespace SessionKeeper

variable {σ τ : Type}

namespace Check

variable [Timeline τ] [Surroundings σ τ]

/-- If the check can list the workspaces, one of that name is among them. -/
def Lists (k : Keeper τ) (name : String) (t : Check σ τ) : Prop :=
  Yields (k.provider.workspaces.on (t.world k)).1 fun all => ∃ x ∈ all, x.name = name

/-- If the check looks the records of its session up and can read them, one of that name is among them. -/
def Recalls (k : Keeper τ) (name : String) (t : Check σ τ) : Prop :=
  Yields (k.provider.workspaces.on (t.world k)).1 fun _ =>
    Yields ((k.registry.records t.session.id).on (k.provider.workspaces.on (t.world k)).2).1 fun rs =>
      ∃ r ∈ rs, r.name = name

instance (k : Keeper τ) (name : String) (t : Check σ τ) : Decidable (t.Lists k name) :=
  inferInstanceAs (Decidable (Yields _ fun all : List Workspace => ∃ x ∈ all, x.name = name))

instance (k : Keeper τ) (name : String) (t : Check σ τ) : Decidable (t.Recalls k name) :=
  inferInstanceAs (Decidable (Yields _ fun _ => Yields _ fun rs : List WorkspaceRecord => ∃ r ∈ rs, r.name = name))

/-- A check that sees a workspace with a name made for its session asks for none: the name is read as it was
written, and the record confirms it. -/
theorem asksNothing_of_listed {k : Keeper τ} {t : Check σ τ} (hid : t.session.id ≠ "") {given : String} {time : Int}
    (hlists : t.Lists k (WorkspaceName.generate t.session.id given time))
    (hrecalls : k.confirms = true → t.Recalls k (WorkspaceName.generate t.session.id given time)) :
    t.AsksNothing k := by
  apply asksNothing
  intro ws z hread
  rcases hlist : k.provider.workspaces.on (t.world k) with ⟨e | all, v⟩
  · rw [Keeper.owned_unlisted hlist] at hread
    cases congrArg Prod.fst hread
  · obtain ⟨x, hx, hname⟩ := hlists all (by rw [hlist])
    have hbelongs : belongs t.session.id x.name x.templateName = true := by
      rw [hname]
      exact WorkspaceName.belongs_generate hid given time x.templateName
    have hcandidate : x ∈ Keeper.candidates t.session all := List.mem_filter.mpr ⟨hx, hbelongs⟩
    refine Keeper.owned_ne_nil hread hlist hcandidate fun rs u hsettled hrecords => ?_
    have hconfirms : k.confirms = true := by
      unfold Keeper.isSettled at hsettled
      revert hsettled
      cases k.confirms <;> simp
    have hlookup := hrecalls hconfirms all (by rw [hlist])
    rw [hlist] at hlookup
    obtain ⟨r, hr, hrecord⟩ := hlookup rs (by rw [hrecords])
    have hrecorded : Keeper.isRecorded rs x = true :=
      List.any_eq_true.mpr ⟨r, hr, by rw [hrecord, hname, beq_self_eq_true, Bool.true_or]⟩
    unfold Keeper.counts
    rw [hrecorded, Bool.or_true]

end Check

/-- **One workspace for a session.** If the provider accepted a request for a workspace in one check of a run,
then no later check of the same session asks for a workspace, as long as the provider lists a workspace of the
requested name and, where records are asked about, the records of the session have one of that name. -/
theorem Keeper.created_once [Timeline τ] [Surroundings σ τ] (k : Keeper τ) (rs : List (Round σ)) (w : World σ τ) :
    (k.checks rs w).Pairwise fun t t' => t.session.id ≠ "" → t'.session.id = t.session.id →
      ∀ name, t.Accepted k name → t'.Lists k name → (k.confirms = true → t'.Recalls k name) →
        t'.AsksNothing k := by
  -- the name alone ties the two checks together: it was made for the session, and so it is read back as its own
  refine List.pairwise_of_forall fun t t' => ?_
  intro hid hsame name haccepted hlists hrecalls
  obtain ⟨e, he, hname⟩ := haccepted
  obtain ⟨time, rfl⟩ := t.wanted_name k he (Event.wanted_of_accepted hname)
  rw [← hsame] at hid hlists hrecalls
  exact Check.asksNothing_of_listed hid hlists hrecalls

/-! ### A rehearsal -/

namespace Rehearsal

/-- The registry lists one active session. The provider lists nothing at first, and the new workspace later; the
registry keeps its record. -/
def twice : Rehearsal :=
  let named (id : String) : Json := .object [("id", .text id), ("name", .text "ws-0fcfba18-alpha-0000")]
  let session : Json := .object [("id", .text "0fcfba18-b832"), ("name", .text "alpha"), ("status", .text "ACTIVE")]
  { plain with
    routes := [
      ("GET /api/v1/sessions/status/ACTIVE", [answer 200 (.list [session])]),
      ("GET /api/v2/workspaces", [answer 200 (.list []), answer 200 (.list [named "w"])]),
      ("GET /api/v1/workspaces", [answer 200 (.list [named "r"])]),
      ("POST /api/v2/users/me/workspaces", [answer 201 (named "w")]),
      ("*", [answer 200 .null])] }

end Rehearsal

/-- A second active pass, with the workspace in the list and its record in the registry, asks for nothing. -/
theorem Keeper.created_once_twice :
    ∃ t ∈ confirming.checksOf .active Rehearsal.twice.world,
      ∃ t' ∈ confirming.checksOf .active (confirming.afterPass .active Rehearsal.twice.world),
        t.Accepted confirming "ws-0fcfba18-alpha-0000" ∧ t'.AsksNothing confirming := by
  have hrun : ∃ t ∈ confirming.checksOf .active Rehearsal.twice.world,
      ∃ t' ∈ confirming.checksOf .active (confirming.afterPass .active Rehearsal.twice.world),
        t.session.id ≠ "" ∧ t'.session.id = t.session.id ∧ t.Accepted confirming "ws-0fcfba18-alpha-0000" ∧
          t'.Lists confirming "ws-0fcfba18-alpha-0000" ∧ t'.Recalls confirming "ws-0fcfba18-alpha-0000" := by
    decide +kernel
  obtain ⟨t, ht, t', ht', hid, hsame, haccepted, hlists, hrecalls⟩ := hrun
  have honce := created_once confirming [⟨.active, id⟩, ⟨.active, id⟩] Rehearsal.twice.world
  rw [checks_cons, checks_cons, Round.start_id, Round.start_id] at honce
  have hacross := (List.pairwise_append.mp honce).2.2 t ht t' (List.mem_append_left _ ht')
  exact ⟨t, ht, t', ht', haccepted, hacross hid hsame _ haccepted hlists fun _ => hrecalls⟩

end SessionKeeper

import SessionKeeper.Proofs.Creation.Stages
import SessionKeeper.Proofs.Pass.Starts
import SessionKeeper.Proofs.Pass.Unrecorded
import SessionKeeper.Proofs.Pass.Updates

/-!
# The first start of a workspace

A creation starts its workspace once and returns it even if that failed. What later passes make of the stopped
workspace depends on the others of the session: beside one that runs it is started, alone it is not.

* `Creation.acquire` : a creation up to its start; `Creation.make_on` puts the start back.
* `Creation.unstarted?` : what a creation made whose start failed; `Creation.createFor_unstarted`.
* `Keeper.RepairsFirstStart` : later active passes start the workspace; `Keeper.first_start_forgotten` is a run in
  which none does.
* `Keeper.first_start_later` : what later passes do.
-/

namespace SessionKeeper

variable {σ τ : Type} [Timeline τ] [Surroundings σ τ]

/-! ## Creations whose start failed -/

namespace Creation

variable {c : Creation τ} {s : Session} {w v : World σ τ} {x : Workspace}

/-- Asks for a workspace for a session, but neither starts it nor writes its record. -/
def acquire (c : Creation τ) (s : Session) : Act σ τ (Option (Workspace × Template)) := do
  let ts ← c.provider.templates
  match Template.choose ts s.tags c.houseWord with
  | none => return none
  | some t => do
    let time ← Act.ofEffect Effect.milliseconds
    let name := WorkspaceName.generate s.id s.name time
    let x ← c.guard.retry (circuitKey s.id) attempts (c.provider.createOrGet name t.id)
    return some (x, t)

theorem make_on (c : Creation τ) (s : Session) (w : World σ τ) :
    (c.make s).on w = Act.next (fun acquired => match acquired with
      | none => pure none
      | some (x, t) => do
        tolerating (c.provider.start x.id)
        return some (x, t)) ((c.acquire s).on w) := by
  unfold make acquire
  rw [Act.on_bind, Act.on_bind]
  rcases htemplates : (c.provider.templates).on w with ⟨e | ts, u⟩
  · rfl
  · rw [Act.next_ok, Act.next_ok]
    cases hchosen : Template.choose ts s.tags c.houseWord with
    | none => rfl
    | some t =>
      dsimp only
      rw [Act.on_bind, Act.on_bind, Act.on_ofEffect, Act.next_ok, Act.next_ok, Act.on_bind, Act.on_bind]
      rcases hmade : (c.guard.retry (circuitKey s.id) attempts (c.provider.createOrGet
          (WorkspaceName.generate s.id s.name (Effect.milliseconds.on u).1) t.id)).on
          (Effect.milliseconds.on u).2 with ⟨e | x, z⟩
      · rfl
      · rfl

/-- The workspace that a creation made and the world after it, if its start failed with a fault of the keeper's own
and nothing else kept it from being returned. -/
def unstarted? (c : Creation τ) (s : Session) (w : World σ τ) : Option (Workspace × World σ τ) :=
  match (c.acquire s).on w with
  | (.ok (some (x, t)), u) =>
    match (c.provider.start x.id).on u with
    | (.error e, y) =>
      match (c.keepRecord s x t).on y with
      | (.ok _, v) => if e.isOwn then some (x, v) else none
      | (.error _, _) => none
    | (.ok _, _) => none
  | _ => none

theorem of_unstarted (h : c.unstarted? s w = some (x, v)) :
    ∃ t u e y, (c.acquire s).on w = (.ok (some (x, t)), u) ∧ (c.provider.start x.id).on u = (.error e, y) ∧
      e.isOwn = true ∧ (c.keepRecord s x t).on y = (.ok (), v) := by
  unfold unstarted? at h
  rcases hacquired : (c.acquire s).on w with ⟨e | _ | ⟨x', t⟩, u⟩
  · simp [hacquired] at h
  · simp [hacquired] at h
  · rcases hstarted : (c.provider.start x'.id).on u with ⟨e | ⟨⟩, y⟩
    · rcases hkept : (c.keepRecord s x' t).on y with ⟨e' | ⟨⟩, v'⟩
      · simp [hacquired, hstarted, hkept] at h
      · simp only [hacquired, hstarted, hkept, Option.ite_none_right_eq_some, Option.some.injEq, Prod.mk.injEq] at h
        obtain ⟨hown, rfl, rfl⟩ := h
        exact ⟨t, u, e, y, rfl, hstarted, hown, hkept⟩
    · simp [hacquired, hstarted] at h

theorem createFor_unstarted (h : c.unstarted? s w = some (x, v)) : (c.createFor s).on w = (.ok (some x), v) := by
  obtain ⟨t, u, e, y, hacquired, hfailed, hown, hkept⟩ := of_unstarted h
  have htolerated : (tolerating (c.provider.start x.id)).on u = (.ok (), y) := by
    unfold tolerating
    rw [Act.on_bind, Act.on_attempt, hfailed, Act.next_ok]
    dsimp only
    rw [if_pos hown]
    rfl
  have hmade : (c.make s).on w = (.ok (some (x, t)), y) := by
    rw [make_on, hacquired, Act.next_ok]
    dsimp only
    rw [Act.on_bind, htolerated]
    rfl
  rw [createFor_on, hmade, Act.next_ok]
  dsimp only
  rw [Act.on_bind, hkept]
  rfl

end Creation

/-! ## What later passes do -/

/-- After a creation in this world whose start failed, every active pass that reads the workspace, stopped, as the
only one of the session starts one, if the circuits of the session and of the start are closed. -/
def Keeper.RepairsFirstStart (k : Keeper τ) (s : Session) (w : World σ τ) : Prop :=
  ∀ x v, k.creation.unstarted? s w = some (x, v) → ∀ rs, ∀ t ∈ k.checks rs v, t.session.id = s.id →
    t.report.pass = .active → t.before.circuits.phaseOf t.session.circuitKey = .closed →
      t.before.circuits.phaseOf (Keeper.startKey x.id) = .closed →
        ∀ y z, (k.owned t.session).on (t.world k) = (.ok [y], z) → y.id = x.id → y.IsStopped → ¬ t.StartsNothing k

/-- A keeper that neither writes records nor asks about them. -/
def Keeper.trusting : Keeper Number := .rehearsed ⟨⟨5, .integer 60⟩, none⟩ false

/-- The provider accepts a workspace for the session, but does not start it. It lists the workspace as stopped and, if
told so, another one that runs. -/
def Rehearsal.unstarted (s : Session) (isAlone : Bool) : Rehearsal :=
  let workspace (id name status : String) : Json := .object [("id", .text id), ("name", .text name),
    ("latest_build", .object [("status", .text status)])]
  let made := workspace "w" (WorkspaceName.generate s.id s.name 0) "stopped"
  let other := workspace "v" ("session-" ++ s.id) "running"
  { plain with
    routes := [
      ("GET /api/v1/sessions/status/ACTIVE", [answer 200 (.list [.object [("id", .text s.id), ("name", .text s.name),
        ("status", .text "ACTIVE")]])]),
      ("GET /api/v2/workspaces", [answer 200 (.list (if isAlone then [made] else [made, other]))]),
      ("POST /api/v2/users/me/workspaces", [answer 201 made]),
      ("POST /api/v2/workspaces/w/builds", [answer 500 .null, answer 200 .null]),
      ("*", [answer 200 .null])] }

namespace Keeper

theorem unstarted_alone :
    ∃ x v, trusting.creation.unstarted? .short (Rehearsal.unstarted .short true).world = some (x, v) ∧
      ∃ t ∈ trusting.checks [⟨.active, id⟩] v, t.session.id = Session.short.id ∧ t.report.pass = .active ∧
        t.before.circuits.phaseOf t.session.circuitKey = .closed ∧
        t.before.circuits.phaseOf (startKey x.id) = .closed ∧ t.StartsNothing trusting ∧
        ∃ y z, (trusting.owned t.session).on (t.world trusting) = (.ok [y], z) ∧ y.id = x.id ∧ y.IsStopped := by
  have hseen : ∃ made ∈ trusting.creation.unstarted? .short (Rehearsal.unstarted .short true).world,
      ∃ t ∈ trusting.checks [⟨.active, id⟩] made.2, t.session.id = Session.short.id ∧ t.report.pass = .active ∧
        t.before.circuits.phaseOf t.session.circuitKey = .closed ∧
        t.before.circuits.phaseOf (startKey made.1.id) = .closed ∧ t.StartsNothing trusting ∧
        (trusting.owned t.session).Returns (t.world trusting) fun ws _ =>
          ws.length = 1 ∧ ∀ y ∈ ws, y.id = made.1.id ∧ y.IsStopped := by
    decide +kernel
  obtain ⟨⟨x, v⟩, hmade, t, ht, hsame, hpass, hclosed, hstart, hnothing, hread⟩ := hseen
  obtain ⟨ws, z, howned, hone, hall⟩ := hread.exists_on
  obtain ⟨y, rfl⟩ := List.length_eq_one_iff.mp hone
  obtain ⟨hid, hstopped⟩ := hall y (List.mem_singleton_self y)
  exact ⟨x, v, hmade, t, ht, hsame, hpass, hclosed, hstart, hnothing, y, z, howned, hid, hstopped⟩

/-- The workspace is stopped and alone, and the active pass does not start it. -/
theorem first_start_forgotten : ¬ trusting.RepairsFirstStart .short (Rehearsal.unstarted .short true).world := by
  intro hrepairs
  obtain ⟨x, v, hmade, t, ht, hsame, hpass, hclosed, hstart, hnothing, y, z, howned, hid, hstopped⟩ := unstarted_alone
  exact hrepairs x v hmade [⟨.active, id⟩] t ht hsame hpass hclosed hstart y z howned hid hstopped hnothing

variable {k : Keeper τ} {t : Check σ τ} {ws : List Workspace} {z : World σ τ}

/-- An active session all of whose workspaces rest is put to the inactive stage, and that is all. -/
theorem rests_of_read (hread : (k.owned t.session).on (t.world k) = (.ok ws, z)) (hpassed : t.isRejected k = false)
    (hpass : t.report.pass = .active) (hrest : ∀ y ∈ ws, ¬ y.IsRunning) (hstopped : ∃ y ∈ ws, y.IsStopped) :
    ∃ updated u, (Change.update .inactive updated).Does k t.session z u ∧
      t.after k = ((k.guard.record t.session.circuitKey (settled updated)).on u).2 := by
  obtain ⟨ds, outcome, v, hanswer, hchanges, hafter, -⟩ := Check.answered hpassed hread
  rw [hpass] at hanswer
  obtain ⟨updated, rfl, rfl⟩ := hanswer.2.1 hrest hstopped
  obtain ⟨u, hdoes, rfl⟩ := hchanges
  exact ⟨updated, v, hdoes, hafter⟩

/-- Where a workspace of an active session runs, the stopped ones are started in order, up to a failure that is not
the keeper's own. -/
theorem starts_of_read (hread : (k.owned t.session).on (t.world k) = (.ok ws, z)) (hpassed : t.isRejected k = false)
    (hpass : t.report.pass = .active) (hruns : ∃ y ∈ ws, y.IsRunning) (hstopped : ∃ y ∈ ws, y.IsStopped) :
    ∃ started u, Reaches started (ws.filter (·.IsStopped)).length ∧
      Changes k t.session ((ws.filter (·.IsStopped)).zipWith (fun y o => .start y.id o) started) z u := by
  obtain ⟨ds, outcome, v, hanswer, hchanges, -⟩ := Check.answered hpassed hread
  rw [hpass] at hanswer
  obtain ⟨started, rfl, hall⟩ := hanswer.2.2.1 hruns hstopped
  exact ⟨started, v, hall, hchanges⟩

/-- **A first start that failed is made up for only beside a workspace that runs.** Let the start of a created
workspace fail; the workspace is returned all the same. Let a later check of the session read it as stopped. If none
of the workspaces of the session runs, the check starts none, whatever its pass, and an active pass that is let
through puts the session to the inactive stage. If one runs, an active pass that is let through starts those that are
stopped. -/
theorem first_start_later (k : Keeper τ) (s : Session) (w : World σ τ) :
    ∀ x v, k.creation.unstarted? s w = some (x, v) →
      (k.creation.createFor s).on w = (.ok (some x), v) ∧
      ∀ rs, ∀ t ∈ k.checks rs v, t.session.id = s.id →
        ∀ ws z, (k.owned t.session).on (t.world k) = (.ok ws, z) → (∃ y ∈ ws, y.id = x.id ∧ y.IsStopped) →
          ((∀ y ∈ ws, ¬ y.IsRunning) → t.StartsNothing k ∧
            (t.report.pass = .active → t.isRejected k = false →
              ∃ updated u, (Change.update .inactive updated).Does k t.session z u ∧
                t.after k = ((k.guard.record t.session.circuitKey (settled updated)).on u).2)) ∧
          ((∃ y ∈ ws, y.IsRunning) → t.report.pass = .active → t.isRejected k = false →
            ∃ started u, Reaches started (ws.filter (·.IsStopped)).length ∧
              Changes k t.session ((ws.filter (·.IsStopped)).zipWith (fun y o => .start y.id o) started) z u) := by
  intro x v hunstarted
  refine ⟨Creation.createFor_unstarted hunstarted, ?_⟩
  intro rs t _ _ ws z hread ⟨y, hy, _, hstop⟩
  refine ⟨fun hrest => ⟨?_, fun hpass hpassed => ?_⟩, fun hruns hpass hpassed => ?_⟩
  · apply Check.startsNothing
    intro ws' z' hread'
    rw [hread] at hread'
    obtain ⟨rfl, rfl⟩ : ws = ws' ∧ z = z' := by simpa using hread'
    exact ⟨List.ne_nil_of_mem hy, hrest⟩
  · exact rests_of_read hread hpassed hpass hrest ⟨y, hy, hstop⟩
  · exact starts_of_read hread hpassed hpass hruns ⟨y, hy, hstop⟩

/-- Alone the workspace is not started; beside another one that runs it is. -/
theorem first_start_later_beside :
    (∃ made ∈ trusting.creation.unstarted? .short (Rehearsal.unstarted .short true).world,
      ∃ t ∈ trusting.checks [⟨.active, id⟩] made.2, t.StartsNothing trusting) ∧
    ∃ made ∈ trusting.creation.unstarted? .short (Rehearsal.unstarted .short false).world,
      ∃ t ∈ trusting.checks [⟨.active, id⟩] made.2, ∃ (started : Except Fault Unit) (z u : World Rehearsal Number),
        (Change.start made.1.id started).Does trusting t.session z u := by
  refine ⟨?_, ?_⟩
  · obtain ⟨x, v, hmade, t, ht, hsame, -, -, -, -, y, z, howned, hid, hstopped⟩ := unstarted_alone
    obtain ⟨-, hlater⟩ := first_start_later trusting .short (Rehearsal.unstarted .short true).world x v hmade
    have hrest : ∀ y' ∈ [y], ¬ y'.IsRunning := by
      intro y' hy'
      obtain rfl : y' = y := List.mem_singleton.mp hy'
      intro hruns
      have hboth : Condition.running = .stopped := hruns.symm.trans hstopped
      cases hboth
    have hnothing := (hlater _ t ht hsame [y] z howned ⟨y, List.mem_singleton_self y, hid, hstopped⟩).1 hrest
    exact ⟨⟨x, v⟩, hmade, t, ht, hnothing.1⟩
  · have hseen : ∃ made ∈ trusting.creation.unstarted? .short (Rehearsal.unstarted .short false).world,
        ∃ t ∈ trusting.checks [⟨.active, id⟩] made.2, t.session.id = Session.short.id ∧
          t.report.pass = .active ∧ t.isRejected trusting = false ∧
          (trusting.owned t.session).Returns (t.world trusting) fun ws _ =>
            (∃ y ∈ ws, y.IsRunning) ∧ (ws.filter (·.IsStopped)).map (·.id) = [made.1.id] := by
      decide +kernel
    obtain ⟨⟨x, v⟩, hmade, t, ht, hsame, hpass, hpassed, hread⟩ := hseen
    obtain ⟨ws, z, howned, hruns, hids⟩ := hread.exists_on
    obtain ⟨y, hstopped, hid⟩ := List.map_eq_singleton_iff.mp hids
    have hy : y ∈ ws.filter (·.IsStopped) := by rw [hstopped]; exact List.mem_singleton_self y
    obtain ⟨hmem, hstop⟩ := List.mem_filter.mp hy
    obtain ⟨-, hlater⟩ := first_start_later trusting .short (Rehearsal.unstarted .short false).world x v hmade
    have hstarts := hlater _ t ht hsame ws z howned ⟨y, hmem, hid, of_decide_eq_true hstop⟩
    obtain ⟨started, u, hreaches, hchanges⟩ := hstarts.2 hruns hpass hpassed
    rw [hstopped] at hreaches hchanges
    cases started with
    | nil =>
      rcases hreaches with hlength | ⟨e, -, hlast⟩
      · cases hlength
      · cases hlast
    | cons o rest =>
      rw [List.zipWith_cons_cons, hid] at hchanges
      obtain ⟨u', hdoes, -⟩ := hchanges
      exact ⟨⟨x, v⟩, hmade, t, ht, o, z, u', hdoes⟩

end Keeper

end SessionKeeper

import SessionKeeper.Proofs.Pass.Run

/-!
# Relations along passes

What a pass does for a session is a question to its circuit, a reading, some changes and a record. A relation that
holds along each of these holds along checks, passes and runs.

* `Keeper.Minds` : the relation holds along attempts under the circuits of a keeper.
* `Pass.target`, `Pass.Moves`, `Check.Acts` : the stage that a pass asks for, whether it does, and what a check may
  ask of the services.
* `Check.keeps`, `Keeper.keeps_steps`, `Keeper.keeps_afterPass`, `Keeper.keeps_afterRun` : the relation holds along
  checks, whole passes and runs, if the acts of the checks are among the requests that it bears.
-/

namespace SessionKeeper

variable {σ τ : Type}

/-! ## Acts -/

/-- The stage that a pass asks for. -/
def Pass.target : Pass → SessionStatus
  | .new => .active
  | .active => .inactive
  | .inactive => .active

/-- Whether a pass asks for another stage of a session with these workspaces. -/
def Pass.Moves : Pass → List Workspace → Prop
  | .new, _ => True
  | .active, ws => (∀ w ∈ ws, ¬ w.IsRunning) ∧ ∃ w ∈ ws, w.IsStopped
  | .inactive, ws => ∃ w ∈ ws, w.IsRunning

/-- A pass answers with updates to its own target, where it moves the session. Creations are for new and active
sessions, and only stopped workspaces of active ones are started. -/
theorem Pass.Answers.mem {p : Pass} {ws : List Workspace} {ds : List Change} {outcome : Except Fault Unit}
    (h : p.Answers ws ds outcome) {d : Change} (hd : d ∈ ds) :
    (p.Moves ws ∧ ∃ updated, d = .update p.target updated) ∨ (p ≠ .inactive ∧ ∃ created, d = .create created) ∨
      (p = .active ∧ ∃ x ∈ ws, x.IsStopped ∧ ∃ started, d = .start x.id started) := by
  cases p with
  | new =>
    obtain ⟨howned, hbare⟩ := h
    by_cases hws : ws = []
    · rcases hbare hws with ⟨created, updated, -, rfl, -⟩ | ⟨e, -, rfl, -⟩
      · simp only [List.mem_cons, List.not_mem_nil, or_false] at hd
        rcases hd with rfl | rfl
        · exact Or.inr (Or.inl ⟨nofun, created, rfl⟩)
        · exact Or.inl ⟨trivial, updated, rfl⟩
      · exact Or.inr (Or.inl ⟨nofun, .error e, List.mem_singleton.mp hd⟩)
    · obtain ⟨updated, rfl, -⟩ := howned hws
      exact Or.inl ⟨trivial, updated, List.mem_singleton.mp hd⟩
  | inactive =>
    obtain ⟨hawake, hasleep⟩ := h
    by_cases hrunning : ∃ w ∈ ws, w.IsRunning
    · obtain ⟨updated, rfl, -⟩ := hawake hrunning
      exact Or.inl ⟨hrunning, updated, List.mem_singleton.mp hd⟩
    · push Not at hrunning
      obtain ⟨rfl, -⟩ := hasleep hrunning
      cases hd
  | active =>
    obtain ⟨hbare, hstopped, hmixed, hother⟩ := h
    by_cases hws : ws = []
    · obtain ⟨created, rfl, -⟩ := hbare hws
      exact Or.inr (Or.inl ⟨nofun, created, List.mem_singleton.mp hd⟩)
    · by_cases hsome : ∃ w ∈ ws, w.IsStopped
      · by_cases hrunning : ∃ w ∈ ws, w.IsRunning
        · obtain ⟨started, rfl, -⟩ := hmixed hrunning hsome
          rw [← List.map_uncurry_zip_eq_zipWith] at hd
          obtain ⟨⟨x, o⟩, hx, rfl⟩ := List.mem_map.mp hd
          obtain ⟨hmem, hstop⟩ := List.mem_filter.mp (List.of_mem_zip hx).1
          exact Or.inr (Or.inr ⟨rfl, x, hmem, of_decide_eq_true hstop, o, rfl⟩)
        · push Not at hrunning
          obtain ⟨updated, rfl, -⟩ := hstopped hrunning hsome
          exact Or.inl ⟨⟨hrunning, hsome⟩, updated, List.mem_singleton.mp hd⟩
      · push Not at hsome
        obtain ⟨rfl, -⟩ := hother hws hsome
        cases hd

/-- What a change may ask of the services for its session. -/
def Change.Asks (k : Keeper τ) (s : Session) : Change → Request → Prop
  | create _, r => k.creation.Sends s r
  | update status _, r => (k.registry.updateCall s.id status).Carries r
  | start id _, r => r.IsQuiet k.provider.keyring ∨ (k.provider.transitionCall id "start").Carries r

/-- What a check may ask of the services for its session, beside what only reads: the update to the target of its
pass, and for new and active sessions a creation. Active checks may start workspaces that they read as stopped. -/
inductive Check.Acts [Timeline τ] [Surroundings σ τ] (k : Keeper τ) (t : Check σ τ) (r : Request) : Prop
  | update (h : (k.registry.updateCall t.session.id t.report.pass.target).Carries r)
  | create (hpass : t.report.pass ≠ .inactive) (h : k.creation.Sends t.session r)
  | start (hpass : t.report.pass = .active) {ws : List Workspace} {v : World σ τ}
      (hread : (k.owned t.session).on (t.world k) = (.ok ws, v)) {x : Workspace} (hx : x ∈ ws)
      (hstopped : x.IsStopped) (h : (k.provider.transitionCall x.id "start").Carries r)

section

variable [Timeline τ] [Surroundings σ τ] {k : Keeper τ}

theorem Check.acts_of_answers {t : Check σ τ} {ws : List Workspace} {ds : List Change} {outcome : Except Fault Unit}
    {v : World σ τ} (hread : (k.owned t.session).on (t.world k) = (.ok ws, v))
    (h : t.report.pass.Answers ws ds outcome) {d : Change} (hd : d ∈ ds) {r : Request}
    (hr : d.Asks k t.session r) : r.IsQuiet k.provider.keyring ∨ t.Acts k r := by
  rcases h.mem hd with ⟨-, updated, rfl⟩ | ⟨hpass, created, rfl⟩ | ⟨hpass, x, hx, hstopped, started, rfl⟩
  · exact Or.inr (.update hr)
  · exact Or.inr (.create hpass hr)
  · exact hr.imp_right fun hstart => .start hpass hread hx hstopped hstart

/-! ## Relations that the circuits of a keeper bear -/

/-- The relation holds along attempts under every key, by all guards of the keeper. -/
structure Keeper.Minds (k : Keeper τ) (R : World σ τ → World σ τ → Prop) : Prop where
  own : ∀ key, k.guard.Minds key R
  registry : ∀ key, k.registry.guard.Minds key R
  creation : ∀ key, k.creation.guard.Minds key R
  records : ∀ key, k.creation.registry.guard.Minds key R

theorem Keeper.Minds.of_all {R : World σ τ → World σ τ → Prop} (h : ∀ (g : Guard τ) (key : String), g.Minds key R)
    (k : Keeper τ) : k.Minds R :=
  ⟨h k.guard, h k.registry.guard, h k.creation.guard, h k.creation.registry.guard⟩

variable {sends : Request → Prop} {R : World σ τ → World σ τ → Prop} (hR : Course sends R) (hk : k.Minds R)
  {s : Session} {u v w : World σ τ}

include hR hk

theorem Change.Does.keeps {d : Change} (h : d.Does k s w v) (hsends : ∀ r, d.Asks k s r → sends r) : R w v := by
  cases d with
  | create outcome =>
    obtain rfl : ((k.creation.createFor s).on w).2 = v := congrArg Prod.snd h
    exact k.creation.keeps_createFor hR hsends (hk.creation _) (hk.records _) w
  | update status outcome =>
    obtain rfl : ((k.registry.updateStatusRetrying s.id status).on w).2 = v := congrArg Prod.snd h
    exact k.registry.keeps_updateStatusRetrying hR s.id status (hk.registry _) hsends w
  | start id outcome =>
    obtain rfl : ((k.guard.retry (Keeper.startKey id) Keeper.startAttempts (k.provider.start id)).on w).2 = v :=
      congrArg Prod.snd h
    have hstart : (k.provider.start id : Act σ τ Unit).Keeps R :=
      k.provider.keeps_start hR (fun r hr => hsends r (Or.inl hr)) id fun r hr => hsends r (Or.inr hr)
    exact Guard.keeps_retry hR (hk.own _) hstart _ w

theorem Changes.keeps {ds : List Change} (h : Changes k s ds w v)
    (hsends : ∀ d ∈ ds, ∀ r, d.Asks k s r → sends r) : R w v := by
  induction ds generalizing w with
  | nil =>
    obtain rfl : v = w := h
    exact hR.refl v
  | cons d ds ih =>
    obtain ⟨u, hd, hrest⟩ := h
    obtain ⟨hfirst, hothers⟩ := List.forall_mem_cons.mp hsends
    exact hR.trans (hd.keeps hR hk hfirst) (ih hrest hothers)

/-! ## Checks, passes and runs -/

variable (hquiet : ∀ r, r.IsQuiet k.provider.keyring → sends r)

include hquiet

theorem Check.keeps_handle {t : Check σ τ} (hacts : ∀ r, t.Acts k r → sends r) :
    R (t.world k) ((k.handle t.report.pass t.session).on t.report.counts (t.world k)).2 := by
  have hreading : R (t.world k) ((k.owned t.session).on (t.world k)).2 := k.keeps_owned hR t.session hquiet _
  rcases hread : (k.owned t.session).on (t.world k) with ⟨e | ws, v⟩
  · rw [hread] at hreading
    rw [Keeper.handle_unread hread]
    exact hreading
  · rw [hread] at hreading
    obtain ⟨ds, outcome, z, hanswer, hchanges, hrun⟩ := Keeper.handle_read hread t.report.pass t.report.counts
    rw [hrun]
    refine hR.trans hreading (hchanges.keeps hR hk fun d hd r hr => ?_)
    exact (t.acts_of_answers hread hanswer hd hr).elim (hquiet r) (hacts r)

theorem Check.keeps {t : Check σ τ} (hacts : ∀ r, t.Acts k r → sends r) : R t.before (t.after k) := by
  have hhandled := t.keeps_handle hR hk hquiet hacts
  unfold Check.after
  unfold Check.world at hhandled
  rcases hask : (k.guard.isOpen t.session.circuitKey).on t.before with ⟨rejected, u⟩
  cases rejected with
  | true =>
    rw [Keeper.step_rejected hask]
    exact (hk.own _).rejected hask
  | false =>
    rw [hask] at hhandled
    rcases hrun : (k.handle t.report.pass t.session).on t.report.counts u with ⟨⟨outcome, c⟩, v⟩
    rw [hrun] at hhandled
    rw [Keeper.step_passed hask hrun]
    exact (hk.own _).passed outcome hask hhandled

namespace Keeper

theorem keeps_steps (r : Report) (ss : List Session) (w : World σ τ)
    (hacts : ∀ t ∈ k.checksFrom r ss w, ∀ q, t.Acts k q → sends q) :
    R w ((ss.foldlM k.step r : Effect σ τ Report).on w).2 := by
  induction ss generalizing r w with
  | nil => exact hR.refl w
  | cons s ss ih =>
    obtain ⟨hfirst, hothers⟩ := List.forall_mem_cons.mp hacts
    rw [foldlM_step_on]
    exact hR.trans (Check.keeps hR hk hquiet hfirst) (ih _ _ hothers)

theorem keeps_overSessions (p : Pass) (w : World σ τ)
    (hacts : ∀ t ∈ k.checksOf p w, ∀ q, t.Acts k q → sends q) : R w ((k.overSessions p).on w).2 := by
  have hlisting : R w ((k.registry.sessions p.status).on w).2 :=
    k.registry.keeps_sessions hR p.status (fun q hq => hquiet q (Or.inl hq.method))
      (fun q hq => hquiet q (Or.inl hq.method)) w
  unfold checksOf at hacts
  rcases hlist : (k.registry.sessions p.status).on w with ⟨e | ss, v⟩
  · rw [hlist] at hlisting
    rw [overSessions_unlisted p hlist]
    exact hlisting
  · rw [hlist] at hlisting hacts
    rw [overSessions_on p hlist]
    exact hR.trans hlisting (keeps_steps hR hk hquiet _ ss v hacts)

variable (hprune : ∀ w, R w (k.guard.prune.on w).2)

include hprune

theorem keeps_afterPass (p : Pass) (w : World σ τ) (hacts : ∀ t ∈ k.checksOf p w, ∀ q, t.Acts k q → sends q) :
    R w (k.afterPass p w) := by
  rw [afterPass_eq]
  exact hR.trans (keeps_overSessions hR hk hquiet p w hacts) (hprune _)

theorem keeps_afterRun (rs : List (Round σ)) (w : World σ τ)
    (hacts : ∀ t ∈ k.checks rs w, ∀ q, t.Acts k q → sends q) : R w (k.afterRun rs w) := by
  induction rs generalizing w with
  | nil => exact hR.refl w
  | cons r rs ih =>
    rw [checks_cons] at hacts
    obtain ⟨hfirst, hothers⟩ := List.forall_mem_append.mp hacts
    have hstart : R w (r.start w) := hR.silent rfl rfl
    exact hR.trans (hR.trans hstart (keeps_afterPass hR hk hquiet hprune r.pass _ hfirst)) (ih _ hothers)

end Keeper

end

end SessionKeeper

import SessionKeeper.Proofs.Pass.Run

/-!
# The steps of a call for a pass

A call for a pass takes its steps one by one: it asks for the pass, lists the sessions, handles one after another,
keeps its report, gives the pass back, and forgets quiet circuits.

* `Desk.report_store` : what is found at the desk after a report was kept.
* `Progress` : how far a call has come.
* `Progress.Step` : the steps that a call may take, with `running`, `reports`, `names` and `rest` : what they change.
* `Keeper.proceed`, `Keeper.afterStep`, `Keeper.afterSteps` : the next step of a call, and what it leaves; some steps.
* `Keeper.afterStep_step` : every step is one of those.
* `Keeper.afterSteps_called` : the steps of a call that nothing interrupts are `Keeper.runPass`.
-/

namespace SessionKeeper

variable {σ τ : Type}

/-! ## The desk -/

namespace Desk

theorem run_get (d : Desk) (w : World σ τ) : ((get : StateT Desk (Effect σ τ) Desk).run d).on w = ((d, d), w) := rfl

theorem run_modify (f : Desk → Desk) (d : Desk) (w : World σ τ) :
    ((modify f : StateT Desk (Effect σ τ) PUnit).run d).on w = (((), f d), w) := rfl

theorem run_lift {α : Type} (e : Effect σ τ α) (d : Desk) (w : World σ τ) :
    ((StateT.lift e : StateT Desk (Effect σ τ) α).run d).on w = (((e.on w).1, d), (e.on w).2) := rfl

theorem isRunning_take (d : Desk) (p q : Pass) : (d.take p).isRunning q = (q == p || d.isRunning q) := rfl

theorem isRunning_release (d : Desk) (p q : Pass) : (d.release p).isRunning q = (q != p && d.isRunning q) := by
  unfold isRunning release
  rw [Bool.eq_iff_iff]
  simp [and_comm]

theorem find_replaced (qs : List Report) (r : Report) (p : Pass) :
    (qs.map fun q => if q.pass == r.pass then r else q).find? (·.pass == p) =
      if r.pass = p then (qs.find? (·.pass == p)).map fun _ => r else qs.find? (·.pass == p) := by
  induction qs with
  | nil => simp
  | cons q qs ih =>
    rw [List.map_cons, List.find?_cons, List.find?_cons, ih]
    by_cases hq : q.pass = r.pass
    · by_cases hp : r.pass = p
      · simp [hq, hp]
      · simp [hq, hp, beq_false_of_ne hp]
    · by_cases hp : r.pass = p
      · subst hp
        simp [beq_false_of_ne hq]
      · simp [hq, hp]

theorem report_store (d : Desk) (r : Report) (p : Pass) :
    (d.store r).report? p = if r.pass = p then some r else d.report? p := by
  unfold store report?
  dsimp only
  by_cases hany : d.reports.any (·.pass == r.pass) = true
  · rw [if_pos hany, find_replaced]
    by_cases hp : r.pass = p
    · subst hp
      obtain ⟨q, hq, hsame⟩ := List.any_eq_true.mp hany
      have hsome : (d.reports.find? (·.pass == r.pass)).isSome = true := List.find?_isSome.mpr ⟨q, hq, hsame⟩
      obtain ⟨q', hfound⟩ := Option.isSome_iff_exists.mp hsome
      rw [if_pos rfl, if_pos rfl, hfound, Option.map_some]
    · rw [if_neg hp, if_neg hp]
  · rw [if_neg hany, List.find?_append, List.find?_singleton]
    by_cases hp : r.pass = p
    · subst hp
      have hnone : d.reports.find? (·.pass == r.pass) = none := by
        rw [List.find?_eq_none]
        intro q hq hsame
        exact hany (List.any_eq_true.mpr ⟨q, hq, hsame⟩)
      rw [hnone]
      simp
    · simp [hp]

end Desk

/-! ## Calls -/

/-- How far a call for a pass has come. -/
inductive Progress where
  | called
  | refused (r : Report)
  | admitted
  | looping (r : Report) (left : List Session)
  | ended (r : Report)
  | stored (r : Report)
  | released (r : Report)
  | returned (r : Report)

namespace Progress

/-- Whether the call is inside: it has marked its pass as running, and not yet as ended. -/
def isInside : Progress → Bool
  | admitted | looping _ _ | ended _ | stored _ => true
  | called | refused _ | released _ | returned _ => false

def isAdmitted : Progress → Bool
  | admitted | looping _ _ | ended _ | stored _ | released _ | returned _ => true
  | called | refused _ => false

/-- The report of the call is one of that pass, and the report of a refusal if it was refused. -/
def Names (p : Pass) : Progress → Prop
  | looping r _ | ended r | stored r | released r | returned r => r.pass = p
  | refused r => r = Report.busy p
  | called | admitted => True

def kept? : Progress → Option Report
  | stored r | released r | returned r => some r
  | called | refused _ | admitted | looping _ _ | ended _ => none

/-- The report of a call that has ended and has not kept it yet. -/
def ended? : Progress → Option Report
  | ended r => some r
  | called | refused _ | admitted | looping _ _ | stored _ | released _ | returned _ => none

/-- The report of a call that has kept it and is about to leave. -/
def stored? : Progress → Option Report
  | stored r => some r
  | called | refused _ | admitted | looping _ _ | ended _ | released _ | returned _ => none

theorem Names.kept {p : Pass} {g : Progress} {r : Report} (h : g.Names p) (hkept : g.kept? = some r) : r.pass = p := by
  cases g with
  | stored r' | released r' | returned r' =>
    cases hkept
    exact h
  | called | refused r' | admitted | looping r' left | ended r' => cases hkept

theorem stored_eq_some {g : Progress} {r : Report} (h : g.stored? = some r) : g = .stored r := by
  cases g with
  | stored r' =>
    cases h
    rfl
  | called | refused r' | admitted | looping r' left | ended r' | released r' | returned r' => cases h

theorem stored_eq_none {g : Progress} (h : g.isInside = false) : g.stored? = none := by
  cases hstored : g.stored? with
  | none => rfl
  | some r =>
    rw [stored_eq_some hstored] at h
    cases h

/-- How many steps are left to a call, once its sessions are listed. -/
def rest? : Progress → Option Nat
  | looping _ left => some (left.length + 4)
  | ended _ => some 3
  | stored _ => some 2
  | released _ => some 1
  | returned _ | refused _ => some 0
  | called | admitted => none

theorem over_eq {g : Progress} (h : g.rest? = some 0) : ∃ r, g = .refused r ∨ g = .returned r := by
  cases g with
  | refused r => exact ⟨r, Or.inl rfl⟩
  | returned r => exact ⟨r, Or.inr rfl⟩
  | called | admitted | looping r left | ended r | stored r | released r => cases h

/-! ## Steps -/

/-- The steps that a call for a pass may take, and what each does to the desk. -/
inductive Step (p : Pass) : Progress → Desk → Progress → Desk → Prop
  | refuse {d : Desk} (hrunning : d.isRunning p = true) : Step p called d (refused (Report.busy p)) d
  | enter {d : Desk} (hfree : d.isRunning p = false) : Step p called d admitted (d.take p)
  | abort {d : Desk} (message : String) : Step p admitted d (ended { Report.empty p with aborted := some message }) d
  | list {d : Desk} (ss : List Session) :
      Step p admitted d (looping { Report.empty p with sessions := ss.length } ss) d
  | handle {d : Desk} {r r' : Report} (s : Session) (left : List Session) (hsame : r'.pass = r.pass) :
      Step p (looping r (s :: left)) d (looping r' left) d
  | finish {d : Desk} (r : Report) : Step p (looping r []) d (ended r) d
  | store {d : Desk} (r : Report) : Step p (ended r) d (stored r) (d.store r)
  | release {d : Desk} (r : Report) : Step p (stored r) d (released r) (d.release p)
  | prune {d : Desk} (r : Report) : Step p (released r) d (returned r) d
  | idle {d : Desk} {g : Progress} (hover : g.rest? = some 0) : Step p g d g d

section

variable {p : Pass} {g g' : Progress} {d d' : Desk}

theorem Step.running (h : Step p g d g' d') :
    (d.isRunning p = false ∧ g.isInside = false ∧ g'.isInside = true ∧ d'.running = (d.take p).running) ∨
    (g.isInside = true ∧ g'.isInside = false ∧ d'.running = (d.release p).running) ∨
    (g'.isInside = g.isInside ∧ d'.running = d.running) := by
  cases h with
  | enter hfree => exact Or.inl ⟨hfree, rfl, rfl, rfl⟩
  | release r => exact Or.inr (Or.inl ⟨rfl, rfl, rfl⟩)
  | refuse _ | abort _ | list _ | handle _ _ _ | finish _ | store _ | prune _ | idle _ =>
    exact Or.inr (Or.inr ⟨rfl, rfl⟩)

theorem Step.reports (h : Step p g d g' d') :
    (∃ r, g = .ended r ∧ g' = .stored r ∧ d' = d.store r) ∨
    (g.ended? = none ∧ g'.kept? = g.kept? ∧ g'.stored? = none ∧ d'.reports = d.reports) := by
  cases h with
  | store r => exact Or.inl ⟨r, rfl, rfl, rfl⟩
  | idle hover =>
    obtain ⟨r, rfl | rfl⟩ := over_eq hover
    · exact Or.inr ⟨rfl, rfl, rfl, rfl⟩
    · exact Or.inr ⟨rfl, rfl, rfl, rfl⟩
  | refuse _ | enter _ | abort _ | list _ | handle _ _ _ | finish _ | release _ | prune _ =>
    exact Or.inr ⟨rfl, rfl, rfl, rfl⟩

theorem Step.names (h : Step p g d g' d') (hnames : g.Names p) : g'.Names p := by
  cases h with
  | refuse _ | abort _ | list _ => rfl
  | enter _ => trivial
  | handle s left hsame => exact hsame.trans hnames
  | finish _ | store _ | release _ | prune _ | idle _ => exact hnames

/-- Once its sessions are listed, each step brings a call nearer to its end. -/
theorem Step.rest {n : Nat} (h : Step p g d g' d') (hrest : g.rest? = some n) : g'.rest? = some (n - 1) := by
  cases h with
  | refuse _ | enter _ | abort _ | list _ => cases hrest
  | handle _ _ _ | finish _ | store _ | release _ | prune _ =>
    cases hrest
    rfl
  | idle hover =>
    rw [hover] at hrest ⊢
    cases hrest
    rfl

theorem Step.admitted (h : Step p g d g' d') (hadmitted : g.isAdmitted = true) : g'.isAdmitted = true := by
  cases h with
  | refuse _ | enter _ => cases hadmitted
  | abort _ | list _ | handle _ _ _ | finish _ | store _ | release _ | prune _ => rfl
  | idle _ => exact hadmitted

theorem Step.listed (h : Step p .admitted d g' d') : ∃ n, g'.rest? = some n := by
  cases h with
  | abort _ => exact ⟨_, rfl⟩
  | list _ => exact ⟨_, rfl⟩
  | idle hover => cases hover

theorem Step.called (h : Step p .called d g' d') : g' = .refused (Report.busy p) ∨ g' = .admitted := by
  cases h with
  | refuse _ => exact Or.inl rfl
  | enter _ => exact Or.inr rfl
  | idle hover => cases hover

end

end Progress

namespace Keeper

variable [Timeline τ] [Surroundings σ τ]

def proceed (k : Keeper τ) (p : Pass) : Progress → StateT Desk (Effect σ τ) Progress
  | .called => do
    if (← get).isRunning p then return .refused (Report.busy p)
    modify (·.take p)
    return .admitted
  | .admitted => do
    match ← StateT.lift (k.registry.sessions p.status).outcome with
    | .error e => return .ended { Report.empty p with aborted := some e.message }
    | .ok ss => return .looping { Report.empty p with sessions := ss.length } ss
  | .looping r [] => return .ended r
  | .looping r (s :: ss) => do return .looping (← StateT.lift (k.step r s)) ss
  | .ended r => do
    modify (·.store r)
    return .stored r
  | .stored r => do
    modify (·.release p)
    return .released r
  | .released r => do
    let _ ← StateT.lift k.guard.prune
    return .returned r
  | .refused r => return .refused r
  | .returned r => return .returned r

/-- The progress of a call after its next step, with the desk and the world after it. -/
def afterStep (k : Keeper τ) (p : Pass) (g : Progress) (d : Desk) (w : World σ τ) : (Progress × Desk) × World σ τ :=
  ((k.proceed p g).run d).on w

variable {k : Keeper τ} {p : Pass} {d : Desk} {w v : World σ τ}

theorem afterStep_busy (h : d.isRunning p = true) : k.afterStep p .called d w = ((.refused (Report.busy p), d), w) := by
  unfold afterStep proceed
  rw [StateT.run_bind, Effect.on_bind, Desk.run_get]
  simp only [h, if_true]
  rfl

theorem afterStep_free (h : d.isRunning p = false) : k.afterStep p .called d w = ((.admitted, d.take p), w) := by
  unfold afterStep proceed
  rw [StateT.run_bind, Effect.on_bind, Desk.run_get]
  simp only [h, Bool.false_eq_true, if_false]
  rfl

theorem afterStep_unlisted {e : Fault} (h : (k.registry.sessions p.status).on w = (.error e, v)) :
    k.afterStep p .admitted d w = ((.ended { Report.empty p with aborted := some e.message }, d), v) := by
  unfold afterStep proceed
  rw [StateT.run_bind, Effect.on_bind, Desk.run_lift, Act.outcome_on, h]
  rfl

theorem afterStep_listed {ss : List Session} (h : (k.registry.sessions p.status).on w = (.ok ss, v)) :
    k.afterStep p .admitted d w = ((.looping { Report.empty p with sessions := ss.length } ss, d), v) := by
  unfold afterStep proceed
  rw [StateT.run_bind, Effect.on_bind, Desk.run_lift, Act.outcome_on, h]
  rfl

theorem afterStep_refused (r : Report) : k.afterStep p (.refused r) d w = ((.refused r, d), w) := rfl

theorem afterStep_step (k : Keeper τ) (p : Pass) (g : Progress) (d : Desk) (w : World σ τ) :
    Progress.Step p g d (k.afterStep p g d w).1.1 (k.afterStep p g d w).1.2 := by
  cases g with
  | called =>
    cases hrunning : d.isRunning p with
    | true =>
      rw [afterStep_busy hrunning]
      exact .refuse hrunning
    | false =>
      rw [afterStep_free hrunning]
      exact .enter hrunning
  | admitted =>
    rcases hlist : (k.registry.sessions p.status).on w with ⟨e | ss, v⟩
    · rw [afterStep_unlisted hlist]
      exact .abort e.message
    · rw [afterStep_listed hlist]
      exact .list ss
  | looping r left =>
    cases left with
    | nil => exact .finish r
    | cons s ss => exact .handle s ss (k.pass_step r s w)
  | ended r => exact .store r
  | stored r => exact .release r
  | released r => exact .prune r
  | refused r | returned r => exact .idle rfl

/-! ## A call that nothing interrupts -/

/-- The progress of a call after some steps, with the desk and the world after them. -/
def afterSteps (k : Keeper τ) (p : Pass) : Nat → Progress → Desk → World σ τ → (Progress × Desk) × World σ τ
  | 0, g, d, w => ((g, d), w)
  | n + 1, g, d, w => afterSteps k p n (k.afterStep p g d w).1.1 (k.afterStep p g d w).1.2 (k.afterStep p g d w).2

theorem runPass_busy (h : d.isRunning p = true) : ((k.runPass p).run d).on w = ((Report.busy p, d), w) := by
  unfold runPass
  rw [StateT.run_bind, Effect.on_bind, Desk.run_get]
  simp only [h, if_true]
  rfl

theorem runPass_free {r : Report} (h : d.isRunning p = false) (hturn : (k.overSessions p).on w = (r, v)) :
    ((k.runPass p).run d).on w = ((r, ((d.take p).store r).release p), (k.guard.prune.on v).2) := by
  unfold runPass
  rw [StateT.run_bind, Effect.on_bind, Desk.run_get]
  simp only [h, Bool.false_eq_true, if_false]
  rw [StateT.run_bind, Effect.on_bind, Desk.run_modify]
  dsimp only
  rw [StateT.run_bind, Effect.on_bind, Desk.run_lift, hturn]
  rfl

theorem afterSteps_looping (n : Nat) (r : Report) (ss : List Session) (d : Desk) (w : World σ τ) :
    k.afterSteps p (ss.length + (n + 1)) (.looping r ss) d w =
      k.afterSteps p n (.ended ((ss.foldlM k.step r : Effect σ τ Report).on w).1) d
        ((ss.foldlM k.step r : Effect σ τ Report).on w).2 := by
  induction ss generalizing r w with
  | nil =>
    rw [List.length_nil, Nat.zero_add]
    rfl
  | cons s ss ih =>
    rw [List.length_cons, Nat.add_right_comm, foldlM_step_on]
    exact ih ((k.step r s).on w).1 ((k.step r s).on w).2

theorem afterSteps_ended (r : Report) : k.afterSteps p 3 (.ended r) d w =
    ((.returned r, (d.store r).release p), (k.guard.prune.on w).2) := rfl

/-- From its admission on, a call turns over the sessions of its pass. -/
theorem afterSteps_admitted (k : Keeper τ) (p : Pass) (d : Desk) (w : World σ τ) : ∃ n,
    k.afterSteps p n .admitted d w = ((.returned ((k.overSessions p).on w).1,
      (d.store ((k.overSessions p).on w).1).release p), (k.guard.prune.on ((k.overSessions p).on w).2).2) := by
  rcases hlist : (k.registry.sessions p.status).on w with ⟨e | ss, v⟩
  · refine ⟨4, ?_⟩
    rw [overSessions_unlisted p hlist]
    unfold afterSteps
    rw [afterStep_unlisted hlist]
    exact afterSteps_ended _
  · refine ⟨ss.length + 4 + 1, ?_⟩
    rw [overSessions_on p hlist]
    unfold afterSteps
    rw [afterStep_listed hlist, afterSteps_looping]
    exact afterSteps_ended _

/-- The steps of a call that nothing interrupts are those of a whole pass. -/
theorem afterSteps_called (k : Keeper τ) (p : Pass) (d : Desk) (w : World σ τ) {r : Report} {d' : Desk}
    (hrun : ((k.runPass p).run d).on w = ((r, d'), v)) : ∃ n,
    k.afterSteps p n .called d w = ((if d.isRunning p then .refused r else .returned r, d'), v) := by
  cases hrunning : d.isRunning p with
  | true =>
    rw [runPass_busy hrunning] at hrun
    cases hrun
    refine ⟨1, ?_⟩
    unfold afterSteps
    rw [afterStep_busy hrunning]
    rfl
  | false =>
    rw [runPass_free hrunning rfl] at hrun
    cases hrun
    obtain ⟨n, hn⟩ := k.afterSteps_admitted p (d.take p) w
    refine ⟨n + 1, ?_⟩
    unfold afterSteps
    rw [afterStep_free hrunning]
    exact hn

end Keeper

end SessionKeeper

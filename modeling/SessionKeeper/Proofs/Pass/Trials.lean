import SessionKeeper.Proofs.Circuit.History
import SessionKeeper.Proofs.Pass.Budget
import SessionKeeper.Proofs.Pass.Course
import SessionKeeper.Service

/-!
# No trial is left hanging

A circuit that lets a trial through is half open, and rejects every other call, until the trial is recorded. All that
the keeper does under a circuit is recorded in the end, so no circuit stays half open.

* `Guard.Settles` : a relation between worlds; what happens between them leaves no trial open.
* `Guard.settles_course`, `Guard.minds_settles` : it holds along all calls, under every key.
* `Keeper.SharesGuard` : all parts of a keeper use one guard, as those of a service do.
* `Errand` : what a sequential run consists of: passes, and operations of the registry with further attempts.
* `Keeper.trials_end` : after any run no circuit is half open, and once the reset timeout has passed calls are let
  through.
-/

namespace SessionKeeper

variable {σ τ : Type}

theorem Circuits.ask_rejected [Timeline τ] {rule : CircuitRule τ} {key : String} {now : τ} {cs : Circuits τ}
    (h : (cs.ask rule key now).1 = true) : (cs.ask rule key now).2 = cs := by
  rw [ask_fst] at h
  obtain ⟨c, hc, hrejects⟩ := (Option.any_eq_true _ _).mp h
  rw [ask_snd rule key now hc, if_neg]
  rw [hrejects]
  exact fun hopened => Bool.noConfusion hopened.2

theorem Circuits.phaseOf_congr {cs ds : Circuits τ} {key : String} (h : cs.find key = ds.find key) :
    cs.phaseOf key = ds.phaseOf key := by
  unfold phaseOf
  rw [h]

namespace Guard

variable [Timeline τ] [Surroundings σ τ] {g : Guard τ} {past : Past τ} {key : String} {u v w : World σ τ}

/-! ## Open trials -/

theorem History.granted_of_halfOpen (hw : g.History past w) (h : w.circuits.phaseOf key = .halfOpen) :
    past.granted key = true := by
  unfold Circuits.phaseOf at h
  rw [hw.find_eq key] at h
  cases hc : past.circuit g.rule key with
  | none =>
    rw [hc] at h
    cases h
  | some c =>
    obtain ⟨latest, -, rfl⟩ := Option.map_eq_some_iff.mp hc
    rw [hc] at h
    have hphase : past.phase g.rule key = .halfOpen := h
    unfold Past.phase at hphase
    split_ifs at hphase with hlow hgranted
    exact hgranted

/-- A failure ends the trial: at the threshold the circuit opens again, and it was half open only there. -/
theorem History.not_halfOpen_fail (hw : g.History past w) (key : String) :
    ((g.fail key).on w).2.circuits.phaseOf key ≠ .halfOpen := by
  intro h
  have hgranted : Past.granted (.failed key w.time :: past) key = true := (hw.failed key).granted_of_halfOpen h
  rw [Past.granted_failure (by simp [Deed.failure?])] at hgranted
  cases hgranted

/-- Where the circuits have a past, they have one afterwards, and every trial that is open then was open before. -/
def Settles (g : Guard τ) (w v : World σ τ) : Prop :=
  (∃ past, g.History past w) →
    (∃ past, g.History past v) ∧ ∀ key, v.circuits.phaseOf key = .halfOpen → w.circuits.phaseOf key = .halfOpen

theorem settles_of_eq (h : v.circuits = w.circuits) : g.Settles w v := by
  rintro ⟨past, hw⟩
  refine ⟨⟨past, hw.elsewhere h⟩, fun key hkey => ?_⟩
  rwa [h] at hkey

theorem settles_course (g : Guard τ) : Course (fun _ => True) (g.Settles : World σ τ → World σ τ → Prop) where
  trans huv hvw hu := by
    obtain ⟨hv, hfirst⟩ := huv hu
    obtain ⟨hw, hsecond⟩ := hvw hv
    exact ⟨hw, fun key hkey => hfirst key (hsecond key hkey)⟩
  silent _ hcircuits := settles_of_eq hcircuits
  sent _ _ hcircuits := settles_of_eq hcircuits
  slept _ _ hcircuits := settles_of_eq hcircuits

theorem settles_rejected (hask : (g.isOpen key).on w = (true, u)) : g.Settles w u := by
  apply settles_of_eq
  have hsame : ((g.isOpen key).on w).2.circuits = w.circuits := by
    rw [circuits_isOpen]
    apply Circuits.ask_rejected
    rw [Circuits.ask_fst, ← isOpen_fst, hask]
  rwa [hask] at hsame

/-- Along an attempt the question may open a trial, under its own key only, and the record of the outcome ends it. -/
theorem settles_passed {α : Type} (outcome : Except Fault α) (hask : (g.isOpen key).on w = (false, u))
    (hcall : g.Settles u v) : g.Settles w ((g.record key outcome).on v).2 := by
  rintro ⟨past, hw⟩
  have hu : g.History (.asked key ((g.isOpen key).on w).1 :: past) ((g.isOpen key).on w).2 := hw.asked key
  rw [hask] at hu
  obtain ⟨⟨past', hv⟩, hopen⟩ := hcall ⟨_, hu⟩
  have hbefore {other : String} (hother : other ≠ key) (h : v.circuits.phaseOf other = .halfOpen) :
      w.circuits.phaseOf other = .halfOpen := by
    have hasked := g.find_isOpen key other w
    rw [hask, if_neg hother] at hasked
    rw [← Circuits.phaseOf_congr hasked]
    exact hopen other h
  cases outcome with
  | ok a =>
    refine ⟨⟨_, hv.succeeded key⟩, fun other h => ?_⟩
    have hfind := find_succeed key other v
    by_cases hother : other = key
    · rw [if_pos hother] at hfind
      unfold Circuits.phaseOf at h
      rw [record, hfind] at h
      cases h
    · rw [if_neg hother] at hfind
      exact hbefore hother ((Circuits.phaseOf_congr hfind).symm.trans h)
  | error e =>
    refine ⟨⟨_, hv.failed key⟩, fun other h => ?_⟩
    have hfind := g.find_fail key other v
    by_cases hother : other = key
    · rw [hother] at h
      exact absurd h (hv.not_halfOpen_fail key)
    · rw [if_neg hother] at hfind
      exact hbefore hother ((Circuits.phaseOf_congr hfind).symm.trans h)

theorem minds_settles (g : Guard τ) (key : String) :
    g.Minds key (g.Settles : World σ τ → World σ τ → Prop) where
  rejected := settles_rejected
  passed := settles_passed

theorem settles_prune (g : Guard τ) (w : World σ τ) : g.Settles w (g.prune.on w).2 := by
  rintro ⟨past, hw⟩
  refine ⟨⟨_, hw.pruned⟩, fun key h => ?_⟩
  have hfind : (g.prune.on w).2.circuits.find key = _ := Circuits.find_prune hw.distinct g.rule w.time key
  unfold Circuits.phaseOf at h
  rw [hfind] at h
  cases hc : (w.circuits.find key).filter fun c => !Timeline.outdated g.rule.resetTimeout c.lastFailure w.time with
  | none =>
    rw [hc] at h
    cases h
  | some c =>
    rw [hc] at h
    unfold Circuits.phaseOf
    rw [(Option.filter_eq_some_iff.mp hc).1]
    exact h

/-- A circuit that is not half open lets a call through once the reset timeout has passed since its last failure. -/
theorem isOpen_elapsed (hphase : w.circuits.phaseOf key ≠ .halfOpen)
    (helapsed : ∀ c, w.circuits.find key = some c →
      Timeline.elapsed g.rule.resetTimeout c.lastFailure w.time = true) : ((g.isOpen key).on w).1 = false := by
  rw [isOpen_fst]
  unfold Circuits.phaseOf at hphase
  cases hc : w.circuits.find key with
  | none => rfl
  | some c =>
    rw [hc] at hphase
    have hwaited : Timeline.elapsed g.rule.resetTimeout c.lastFailure w.time = true := helapsed c hc
    have hpasses : c.rejects g.rule w.time = false := by
      unfold Circuit.rejects
      cases hp : c.phase with
      | closed => rfl
      | halfOpen => exact absurd hp hphase
      | opened => rw [hwaited, Bool.not_true]
    rw [Option.any_some, hpasses]

end Guard

/-! ## What the keeper does -/

/-- All parts of the keeper use one guard. -/
structure Keeper.SharesGuard (k : Keeper τ) (g : Guard τ) : Prop where
  guard : k.guard = g
  registry : k.registry.guard = g
  creation : k.creation.guard = g
  records : k.creation.registry.guard = g

theorem Service.sharesGuard {ofSeconds : Float → τ} {settings : Settings} {service : Service τ}
    (h : Service.ofSettings ofSeconds settings = .ok service) : service.keeper.SharesGuard service.guard := by
  unfold ofSettings Registry.connect? at h
  cases hcheck : Endpoint.check settings.registryBaseUrl with
  | error e => simp [hcheck, bind, Except.bind] at h
  | ok checked =>
    cases hprovider : Provider.connect? settings.providerBaseUrl with
    | error e => simp [hcheck, hprovider, bind, Except.bind, pure, Except.pure] at h
    | ok p =>
      simp only [hcheck, hprovider, bind, Except.bind, pure, Except.pure, Except.ok.injEq] at h
      subst h
      exact ⟨rfl, rfl, rfl, rfl⟩

theorem Keeper.SharesGuard.minds [Timeline τ] [Surroundings σ τ] {k : Keeper τ} {g : Guard τ} (hk : k.SharesGuard g) :
    k.Minds (g.Settles : World σ τ → World σ τ → Prop) where
  own key := by
    rw [hk.guard]
    exact g.minds_settles key
  registry key := by
    rw [hk.registry]
    exact g.minds_settles key
  creation key := by
    rw [hk.creation]
    exact g.minds_settles key
  records key := by
    rw [hk.records]
    exact g.minds_settles key

/-! ## Runs -/

/-- What is done at a time: a pass, or an operation of the registry with further attempts. -/
inductive Errand where
  | pass (p : Pass)
  | update (id : String) (status : SessionStatus)
  | updateNamed (id : String) (status : Json)
  | record (request : RecordRequest)
  | startRecord (id : String)

namespace Keeper

variable [Timeline τ] [Surroundings σ τ] {k : Keeper τ} {g : Guard τ}

def afterErrand (k : Keeper τ) (w : World σ τ) : Errand → World σ τ
  | .pass p => k.afterPass p w
  | .update id status => ((k.registry.updateStatusRetrying id status).on w).2
  | .updateNamed id status => ((k.registry.updateNamedRetrying id status).on w).2
  | .record request => ((k.registry.createRecordRetrying request).on w).2
  | .startRecord id => ((k.registry.startRecordRetrying id).on w).2

/-- The world after some errands; before each something happens outside. -/
def afterErrands (k : Keeper τ) (w : World σ τ) (es : List ((σ → σ) × Errand)) : World σ τ :=
  es.foldl (fun w e => k.afterErrand { w with outside := e.1 w.outside } e.2) w

/-- However an errand ends, it leaves no trial open. -/
theorem SharesGuard.settles_errand (hk : k.SharesGuard g) (w : World σ τ) (e : Errand) :
    g.Settles w (k.afterErrand w e) := by
  have hcourse : Course (fun _ => True) (g.Settles : World σ τ → World σ τ → Prop) := g.settles_course
  have hminds : k.Minds (g.Settles : World σ τ → World σ τ → Prop) := hk.minds
  cases e with
  | pass p =>
    have hprune : ∀ w : World σ τ, g.Settles w (k.guard.prune.on w).2 := by
      rw [hk.guard]
      exact g.settles_prune
    exact keeps_afterPass hcourse hminds (fun _ _ => trivial) hprune p w fun _ _ _ _ => trivial
  | update id status =>
    exact k.registry.keeps_updateStatusRetrying hcourse id status (hminds.registry _) (fun _ _ => trivial) w
  | updateNamed id status =>
    exact k.registry.keeps_updateNamedRetrying hcourse id status (hminds.registry _) (fun _ _ _ => trivial) w
  | record request =>
    exact k.registry.keeps_createRecordRetrying hcourse request (hminds.registry _) (fun _ _ => trivial) w
  | startRecord id =>
    exact k.registry.keeps_startRecordRetrying hcourse id (hminds.registry _) (fun _ _ => trivial) w

theorem SharesGuard.settles_errands (hk : k.SharesGuard g) (w : World σ τ) (es : List ((σ → σ) × Errand)) :
    g.Settles w (k.afterErrands w es) := by
  induction es generalizing w with
  | nil => exact g.settles_course.refl w
  | cons e es ih =>
    have hstart : g.Settles w { w with outside := e.1 w.outside } := Guard.settles_of_eq rfl
    exact g.settles_course.trans (g.settles_course.trans hstart (hk.settles_errand _ e.2)) (ih _)

/-- **No trial is left hanging.** Let no circuit of a breaker be half open. Whatever passes and retried operations of
the registry follow one another, whatever the services answer and the clock says: no circuit is half open when they
have ended, and a key is let through again once the reset timeout has passed since its last failure. -/
theorem trials_end (hk : k.SharesGuard g) {past : Past τ} {w : World σ τ} (hw : g.History past w)
    (hnone : ∀ key, w.circuits.phaseOf key ≠ .halfOpen) (es : List ((σ → σ) × Errand)) :
    ∀ key, (k.afterErrands w es).circuits.phaseOf key ≠ .halfOpen ∧
      ∀ v : World σ τ, v.circuits = (k.afterErrands w es).circuits →
        (∀ c, v.circuits.find key = some c → Timeline.elapsed g.rule.resetTimeout c.lastFailure v.time = true) →
          ((g.isOpen key).on v).1 = false := by
  intro key
  obtain ⟨-, hopen⟩ := hk.settles_errands w es ⟨past, hw⟩
  have hphase : (k.afterErrands w es).circuits.phaseOf key ≠ .halfOpen := fun h => hnone key (hopen key h)
  refine ⟨hphase, fun v hsame helapsed => ?_⟩
  rw [← hsame] at hphase
  exact Guard.isOpen_elapsed hphase helapsed

/-- An active session fails twice, and its circuit opens. The trial after a minute fails as well; another minute later
the session is let through. -/
theorem trials_end_busy :
    let k := Keeper.rehearsed .brittle true
    let v := k.afterErrands Rehearsal.busy.world (Rehearsal.busyRounds.map fun r => (r.meanwhile, .pass r.pass))
    v.circuits.failuresOf "session_a" = 3 ∧ ((Guard.brittle.isOpen "session_a").on v).1 = true ∧
      ((Guard.brittle.isOpen "session_a").on { v with outside := v.outside.minute }).1 = false := by
  intro k v
  refine ⟨by decide +kernel, by decide +kernel, ?_⟩
  have hk : k.SharesGuard .brittle := ⟨rfl, rfl, rfl, rfl⟩
  have hend := trials_end hk (.start rfl) (fun key h => nomatch h)
    (Rehearsal.busyRounds.map fun r => (r.meanwhile, .pass r.pass)) (w := Rehearsal.busy.world)
  have hwaited : (v.circuits.find "session_a").all (fun c =>
      Timeline.elapsed Guard.brittle.rule.resetTimeout c.lastFailure v.outside.minute.clock) = true := by
    decide +kernel
  refine (hend "session_a").2 _ rfl fun c hc => ?_
  have hfound : v.circuits.find "session_a" = some c := hc
  rw [hfound] at hwaited
  exact hwaited

end Keeper

end SessionKeeper

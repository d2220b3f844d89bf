import SessionKeeper.Proofs.Pass.Course
import SessionKeeper.Proofs.Pass.Owned

/-!
# The lifecycle of sessions

A pass acts on the sessions that the registry lists for it. What a session says of its own stage plays no part, so
the transitions are those of the lifecycle exactly as far as the lists are right.

* `SessionStatus.Transition` : the transitions that the passes stand for.
* `OnlySent.course`, `OnlySent.minds` : which requests were sent, as a relation along passes.
* `Keeper.KeepsLifecycle` : a run acts only on sessions that report the stage of the pass;
  `Keeper.lifecycle_mislisted` is a run that does not.
* `Keeper.ListsOwnStage` : all lists of a run are right.
* `Keeper.acts_on_listed` : a run acts on listed sessions only, and keeps the lifecycle where the lists are right.
-/

namespace SessionKeeper

variable {σ τ : Type}

/-- The transitions that passes stand for, from the stage that a pass lists to the one that it asks for. -/
inductive SessionStatus.Transition : SessionStatus → SessionStatus → Prop
  | activated : Transition .pending .active
  | deactivated : Transition .active .inactive
  | resumed : Transition .inactive .active

theorem Pass.transition (p : Pass) : p.status.Transition p.target := by
  cases p with
  | new => exact .activated
  | active => exact .deactivated
  | inactive => exact .resumed

theorem SessionStatus.Transition.not_ended {a b : SessionStatus} (h : a.Transition b) :
    a ≠ .completed ∧ a ≠ .failed := by
  cases h with
  | activated => exact ⟨nofun, nofun⟩
  | deactivated => exact ⟨nofun, nofun⟩
  | resumed => exact ⟨nofun, nofun⟩

/-! ## What is sent along a run -/

namespace OnlySent

variable {p : Request → Prop} {u v w : World σ τ}

theorem trans (huv : OnlySent p u v) (hvw : OnlySent p v w) : OnlySent p u w := by
  obtain ⟨older, holder, hsent⟩ := huv
  obtain ⟨newer, hnewer, hsent'⟩ := hvw
  refine ⟨newer ++ older, by rw [hnewer, holder, List.append_assoc], fun r x hr => ?_⟩
  rcases List.mem_append.mp hr with hr | hr
  · exact hsent' r x hr
  · exact hsent r x hr

theorem of_event {e : Event τ} (hjournal : v.journal = e :: w.journal) (he : ∀ r x, e = .sent r x → p r) :
    OnlySent p w v :=
  ⟨[e], hjournal, fun r x hr => he r x (List.mem_singleton.mp hr).symm⟩

theorem course (p : Request → Prop) : Course p (OnlySent p : World σ τ → World σ τ → Prop) where
  trans := OnlySent.trans
  silent hjournal _ := ⟨[], hjournal, by simp⟩
  sent hr hjournal _ := by
    refine of_event hjournal fun r x h => ?_
    cases h
    exact hr
  slept _ hjournal _ := of_event hjournal nofun

theorem minds [Timeline τ] [Surroundings σ τ] (p : Request → Prop) (g : Guard τ) (key : String) :
    g.Minds key (OnlySent p : World σ τ → World σ τ → Prop) := by
  refine .of_steps OnlySent.trans (fun w => of_event (g.journal_isOpen key w) nofun) fun outcome w => ?_
  cases outcome with
  | ok a => exact of_event (Guard.journal_succeed key w) nofun
  | error e => exact of_event (g.journal_fail key w) nofun

end OnlySent

/-! ## Lists -/

namespace Keeper

variable [Timeline τ] [Surroundings σ τ] {k : Keeper τ} {t : Check σ τ} {w : World σ τ}

theorem of_mem_checksFrom {r : Report} {ss : List Session} (h : t ∈ k.checksFrom r ss w) :
    t.session ∈ ss ∧ t.report.pass = r.pass := by
  induction ss generalizing r w with
  | nil => cases h
  | cons s ss ih =>
    rcases List.mem_cons.mp h with rfl | hrest
    · exact ⟨List.mem_cons_self, rfl⟩
    · obtain ⟨hmem, hpass⟩ := ih hrest
      exact ⟨List.mem_cons_of_mem s hmem, hpass.trans (k.pass_step r s w)⟩

theorem of_mem_checksOf {p : Pass} (h : t ∈ k.checksOf p w) :
    t.report.pass = p ∧ ∃ ss v, (k.registry.sessions p.status).on w = (.ok ss, v) ∧ t.session ∈ ss := by
  unfold checksOf at h
  rcases hlist : (k.registry.sessions p.status).on w with ⟨e | ss, v⟩
  · rw [hlist] at h
    cases h
  · rw [hlist] at h
    obtain ⟨hmem, hpass⟩ := of_mem_checksFrom h
    exact ⟨hpass, ss, v, rfl, hmem⟩

/-- The session of the check was on the list that its own pass read in the run. -/
def Listed (k : Keeper τ) (rs : List (Round σ)) (w : World σ τ) (t : Check σ τ) : Prop :=
  ∃ earlier r later, rs = earlier ++ r :: later ∧ t.report.pass = r.pass ∧
    ∃ ss v, (k.registry.sessions r.pass.status).on (r.start (k.afterRun earlier w)) = (.ok ss, v) ∧ t.session ∈ ss

theorem listed_of_mem {rs : List (Round σ)} (h : t ∈ k.checks rs w) : k.Listed rs w t := by
  induction rs generalizing w with
  | nil => cases h
  | cons r rs ih =>
    rw [checks_cons] at h
    rcases List.mem_append.mp h with hfirst | hrest
    · obtain ⟨hpass, hlist⟩ := of_mem_checksOf hfirst
      exact ⟨[], r, rs, rfl, hpass, hlist⟩
    · obtain ⟨earlier, r', later, rfl, hpass, hlist⟩ := ih hrest
      exact ⟨r :: earlier, r', later, rfl, hpass, hlist⟩

/-- Whatever list a pass of the run reads, the sessions on it report the stage that was asked for. -/
def ListsOwnStage (k : Keeper τ) : List (Round σ) → World σ τ → Prop
  | [], _ => True
  | r :: rs, w =>
    Yields ((k.registry.sessions r.pass.status).on (r.start w)).1 (fun ss => ∀ s ∈ ss, s.status = r.pass.status) ∧
      ListsOwnStage k rs (k.afterPass r.pass (r.start w))

theorem ListsOwnStage.status {rs : List (Round σ)} (h : k.ListsOwnStage rs w) (ht : t ∈ k.checks rs w) :
    t.session.status = t.report.pass.status := by
  induction rs generalizing w with
  | nil => cases ht
  | cons r rs ih =>
    obtain ⟨hlist, hrest⟩ := h
    rw [checks_cons] at ht
    rcases List.mem_append.mp ht with hfirst | hlater
    · obtain ⟨hpass, ss, v, hsessions, hmem⟩ := of_mem_checksOf hfirst
      rw [hpass]
      exact hlist ss (by rw [hsessions]) t.session hmem
    · exact ih hrest hlater

/-! ## The lifecycle -/

/-- Beside what only reads, the run sends nothing but the acts of checks whose sessions report the stage of the
pass. -/
def KeepsLifecycle (k : Keeper τ) (rs : List (Round σ)) (w : World σ τ) : Prop :=
  OnlySent
    (fun r => r.IsQuiet k.provider.keyring ∨ ∃ t ∈ k.checks rs w, t.session.status = t.report.pass.status ∧ t.Acts k r)
    w (k.afterRun rs w)

end Keeper

/-- The registry has no route for lists by stage, and its list of all sessions holds one of some stage. The provider
has a workspace of the session. -/
def Rehearsal.unrouted (stage : SessionStatus) : Rehearsal :=
  { plain with
    routes := [
      ("GET /api/v1/sessions/status/PENDING", [answer 404 .null]),
      ("GET /api/v1/sessions", [answer 200 (.list [.object [("id", .text "a"), ("status", .text stage.text)]])]),
      ("GET /api/v2/workspaces", [answer 200 (.list [.object [("id", .text "w"), ("name", .text "session-a")]])]),
      ("*", [answer 200 .null])] }

def Event.isPut : Event τ → Bool
  | .sent r _ => r.method == "PUT"
  | .slept _ | .asked _ _ | .succeeded _ | .failed _ _ | .pruned _ => false

theorem Event.exists_put {es : List (Event τ)} (h : es.any Event.isPut = true) :
    ∃ r x, .sent r x ∈ es ∧ r.method = "PUT" := by
  obtain ⟨e, he, hput⟩ := List.any_eq_true.mp h
  cases e with
  | sent r x => exact ⟨r, x, he, beq_iff_eq.mp hput⟩
  | slept seconds => cases hput
  | asked key rejected => cases hput
  | succeeded key => cases hput
  | failed key time => cases hput
  | pruned time => cases hput

/-- The completed session is made active. -/
theorem Keeper.lifecycle_mislisted :
    ¬ Keeper.confirming.KeepsLifecycle [⟨.new, id⟩] (Rehearsal.unrouted .completed).world := by
  have hreported : ∀ t ∈ Keeper.confirming.checks [⟨.new, id⟩] (Rehearsal.unrouted .completed).world,
      t.session.status ≠ t.report.pass.status := by
    decide +kernel
  have hput : (Keeper.confirming.afterRun [⟨.new, id⟩] (Rehearsal.unrouted .completed).world).journal.any Event.isPut =
      true := by
    decide +kernel
  rintro ⟨news, hnews, hsent⟩
  obtain ⟨r, x, hr, hmethod⟩ := Event.exists_put hput
  have hfirst : (Rehearsal.unrouted .completed).world.journal = [] := rfl
  rw [hnews, hfirst, List.append_nil] at hr
  rcases hsent r x hr with (hget | ⟨token, hrenewal⟩) | ⟨t, ht, hstatus, -⟩
  · rw [hget] at hmethod
    exact absurd hmethod (by decide)
  · have hpost : r.method = "POST" := hrenewal.method
    rw [hpost] at hmethod
    exact absurd hmethod (by decide)
  · exact hreported t ht hstatus

namespace Keeper

variable [Timeline τ] [Surroundings σ τ]

/-- The requests of a run are those that read and the acts of its checks. -/
theorem onlySent_acts (k : Keeper τ) {p : Request → Prop} (rs : List (Round σ)) (w : World σ τ)
    (hquiet : ∀ r, r.IsQuiet k.provider.keyring → p r) (hacts : ∀ t ∈ k.checks rs w, ∀ r, t.Acts k r → p r) :
    OnlySent p w (k.afterRun rs w) := by
  have hprune : ∀ w : World σ τ, OnlySent p w (k.guard.prune.on w).2 := fun w => .of_event rfl nofun
  exact keeps_afterRun (OnlySent.course p) (.of_all (OnlySent.minds p) k) hquiet hprune rs w hacts

/-- **Passes act on what is listed for them.** Whatever the registry answers, a run sends nothing but what reads and
the acts of its checks, and each check is for a session on the list that its own pass read. What the session says of
its stage makes no difference. If all lists hold sessions of the asked stage only, each act is for a session that
reports the stage of the pass, and so belongs to a transition of the lifecycle; completed and failed sessions are
not checked at all. -/
theorem acts_on_listed (k : Keeper τ) (rs : List (Round σ)) (w : World σ τ) :
    OnlySent (fun r => r.IsQuiet k.provider.keyring ∨ ∃ t ∈ k.checks rs w, t.Acts k r) w (k.afterRun rs w) ∧
    (∀ t ∈ k.checks rs w, k.Listed rs w t) ∧
    (∀ (r : Report) (s : Session) (stage : SessionStatus),
      (k.step r { s with status := stage } : Effect σ τ Report) = k.step r s) ∧
    (k.ListsOwnStage rs w → k.KeepsLifecycle rs w ∧
      ∀ t ∈ k.checks rs w, t.session.status.Transition t.report.pass.target ∧
        t.session.status ≠ .completed ∧ t.session.status ≠ .failed) := by
  refine ⟨?_, fun t ht => listed_of_mem ht, fun r s stage => ?_, fun hlists => ⟨?_, fun t ht => ?_⟩⟩
  · exact k.onlySent_acts rs w (fun r => Or.inl) fun t ht r hr => Or.inr ⟨t, ht, hr⟩
  · -- the id, the name and the tags are all that is read of a session
    rcases r with ⟨p, sessions, processed, skipped, failed, counts, aborted⟩
    cases p <;> rfl
  · exact k.onlySent_acts rs w (fun r => Or.inl) fun t ht r hr => Or.inr ⟨t, ht, hlists.status ht, hr⟩
  · have htransition : t.session.status.Transition t.report.pass.target := by
      rw [hlists.status ht]
      exact t.report.pass.transition
    exact ⟨htransition, htransition.not_ended⟩

/-- A list that holds a pending session: the new pass makes it active, and the lifecycle is kept. -/
theorem acts_on_listed_pending :
    Keeper.confirming.KeepsLifecycle [⟨.new, id⟩] (Rehearsal.unrouted .pending).world ∧
      ∃ t ∈ Keeper.confirming.checks [⟨.new, id⟩] (Rehearsal.unrouted .pending).world,
        t.session.status = .pending ∧ t.session.status.Transition .active := by
  have hlists : Keeper.confirming.ListsOwnStage [⟨.new, id⟩] (Rehearsal.unrouted .pending).world :=
    ⟨by decide +kernel, trivial⟩
  have hchecked : ∃ t ∈ Keeper.confirming.checks [⟨.new, id⟩] (Rehearsal.unrouted .pending).world,
      t.session.status = .pending ∧ t.report.pass = .new := by
    decide +kernel
  obtain ⟨-, -, -, hright⟩ := acts_on_listed .confirming [⟨.new, id⟩] (Rehearsal.unrouted .pending).world
  obtain ⟨hkeeps, hstages⟩ := hright hlists
  obtain ⟨t, ht, hpending, hpass⟩ := hchecked
  have htransition := (hstages t ht).1
  rw [hpass] at htransition
  exact ⟨hkeeps, t, ht, hpending, htransition⟩

end Keeper

end SessionKeeper

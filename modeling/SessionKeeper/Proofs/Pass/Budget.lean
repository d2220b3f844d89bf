import SessionKeeper.Proofs.Circuit.Budget
import SessionKeeper.Proofs.Pass.Accounting
import SessionKeeper.Proofs.Pass.Run

/-!
# The budget of a session

A session is handled under its own circuit in every pass. So the handlings of a session keep to the budget of
that circuit, as the attempts of retried calls do.

* `Keeper.handling?`, `Keeper.handlings` : the handlings of a session in the checks of a run.
* `Guard.Keeps`, `Keeper.Retains` : pruning does not forget a key; it does not after any pass of a run.
* `Guard.Ledger.check`, `Guard.Ledger.pass`, `Guard.Ledger.run` : failed handlings keep the ledger of the
  session.
* `Guard.failure_budget` : retried calls and handlings that always fail keep to the budget.
-/

namespace SessionKeeper

variable {σ τ : Type}

theorem Session.circuitKey_inj {s s' : Session} : s.circuitKey = s'.circuitKey ↔ s.id = s'.id := by
  unfold Session.circuitKey
  rw [String.append_right_inj]

/-! ## Handlings -/

namespace Keeper

variable [Timeline τ] [Surroundings σ τ]

/-- What a step does for its session when the circuit lets it. -/
def handling (k : Keeper τ) (r : Report) (s : Session) : Act σ τ Unit := ExceptT.mk do
  let (outcome, _) ← ((k.handle r.pass s).run.run r.counts)
  return outcome

def handling? (k : Keeper τ) (t : Check σ τ) : Option (Attempt σ τ Unit) :=
  k.guard.attempt? t.session.circuitKey (k.handling t.report t.session) t.before

def handlings (k : Keeper τ) (s : Session) (ts : List (Check σ τ)) : List (Attempt σ τ Unit) :=
  (ts.filter (·.session.id == s.id)).filterMap k.handling?

variable {k : Keeper τ} {s : Session} {w u v : World σ τ}

theorem handling_on (k : Keeper τ) (r : Report) (s : Session) (w : World σ τ) :
    (k.handling r s).on w = (((k.handle r.pass s).on r.counts w).1.1, ((k.handle r.pass s).on r.counts w).2) :=
  rfl

theorem handlings_append (k : Keeper τ) (s : Session) (ts ts' : List (Check σ τ)) :
    k.handlings s (ts ++ ts') = k.handlings s ts ++ k.handlings s ts' := by
  unfold handlings
  rw [List.filter_append, List.filterMap_append]

theorem handlings_other {t : Check σ τ} (h : t.session.id ≠ s.id) : k.handlings s [t] = [] := by
  simp [handlings, h]

theorem handlings_own {t : Check σ τ} (h : t.session.id = s.id) :
    k.handlings s [t] = (k.handling? t).toList := by
  unfold handlings
  cases hhandling : k.handling? t with
  | none => simp [h, hhandling]
  | some a => simp [h, hhandling]

theorem find_step_other {t : Check σ τ} (h : t.session.id ≠ s.id) :
    (t.after k).circuits.find s.circuitKey = t.before.circuits.find s.circuitKey := by
  have hkey : s.circuitKey ≠ t.session.circuitKey := fun heq => h (Session.circuitKey_inj.mp heq).symm
  have hasked := k.guard.find_isOpen t.session.circuitKey s.circuitKey t.before
  rw [if_neg hkey] at hasked
  unfold Check.after
  rcases hask : (k.guard.isOpen t.session.circuitKey).on t.before with ⟨rejected, u⟩
  rw [hask] at hasked
  cases rejected with
  | true =>
    rw [step_rejected hask]
    exact hasked
  | false =>
    have hhandled := k.find_handle t.report.pass t.session s t.report.counts u
    rcases hrun : (k.handle t.report.pass t.session).on t.report.counts u with ⟨⟨outcome, d⟩, v⟩
    rw [hrun] at hhandled
    rw [step_passed hask hrun]
    have hrecorded : ((k.guard.record t.session.circuitKey outcome).on v).2.circuits.find s.circuitKey =
        v.circuits.find s.circuitKey := by
      cases outcome with
      | ok x => exact (Guard.find_succeed _ _ v).trans (if_neg hkey)
      | error e => exact (k.guard.find_fail _ _ v).trans (if_neg hkey)
    exact hrecorded.trans (hhandled.trans hasked)

end Keeper

/-! ## Pruning -/

/-- Pruning does not forget the key. -/
def Guard.Keeps [Timeline τ] [Surroundings σ τ] (g : Guard τ) (key : String) (w : World σ τ) : Prop :=
  (g.prune.on w).2.circuits.find key = w.circuits.find key

theorem Guard.keeps_of_recent [Timeline τ] [Surroundings σ τ] {g : Guard τ} {key : String} {w : World σ τ}
    (h : (w.circuits.find key).all (fun c => !Timeline.outdated g.rule.resetTimeout c.lastFailure w.time) = true) :
    g.Keeps key w := by
  unfold Keeps
  rw [circuits_prune]
  generalize w.circuits = cs at h ⊢
  unfold Circuits.prune
  induction cs with
  | nil => rfl
  | cons e cs ih =>
    rw [Circuits.find_cons] at h
    rw [Circuits.find_cons]
    by_cases hkey : e.1 = key
    · rw [if_pos hkey] at h ⊢
      have hkept : (!Circuits.isStale g.rule w.time e) = true := by simpa [Circuits.isStale] using h
      rw [List.filter_cons, if_pos hkept, Circuits.find_cons, if_pos hkey]
    · rw [if_neg hkey] at h ⊢
      rw [List.filter_cons]
      split
      · rw [Circuits.find_cons, if_neg hkey]
        exact ih h
      · exact ih h

/-- After none of the passes of a run pruning forgets the key. -/
def Keeper.Retains [Timeline τ] [Surroundings σ τ] (k : Keeper τ) (key : String) :
    List (Round σ) → World σ τ → Prop
  | [], _ => True
  | r :: rs, w => k.guard.Keeps key ((k.overSessions r.pass).on (r.start w)).2 ∧
      k.Retains key rs (k.afterPass r.pass (r.start w))

/-! ## The ledger of a session -/

namespace Guard.Ledger

variable [Timeline τ] [Surroundings σ τ] {k : Keeper τ} {s : Session} {as : List (Attempt σ τ Unit)}
  {w : World σ τ}

theorem check {t : Check σ τ} (h : k.guard.Ledger s.circuitKey as t.before)
    (hall : ∀ a ∈ k.handlings s [t], a.Failed) :
    k.guard.Ledger s.circuitKey (as ++ k.handlings s [t]) (t.after k) := by
  -- sessions share a circuit exactly if they share an id
  by_cases hsession : t.session.id = s.id
  · have hkey : t.session.circuitKey = s.circuitKey := Session.circuitKey_inj.mpr hsession
    rw [Keeper.handlings_own hsession] at hall ⊢
    unfold Keeper.handling? Check.after at *
    rcases hask : (k.guard.isOpen t.session.circuitKey).on t.before with ⟨rejected, u⟩
    cases rejected with
    | true =>
      rw [Guard.attempt?_rejected hask, Option.toList_none, List.append_nil, Keeper.step_rejected hask]
      rw [hkey] at hask
      exact h.rejected hask
    | false =>
      have hspared := k.find_handle t.report.pass t.session t.session t.report.counts u
      rcases hrun : (k.handle t.report.pass t.session).on t.report.counts u with ⟨⟨outcome, d⟩, v⟩
      rw [hrun] at hspared
      have hhandling : (k.handling t.report t.session).on u = (outcome, v) := by
        rw [Keeper.handling_on, hrun]
      rw [Guard.attempt?_passed hask hhandling, Option.toList_some] at hall ⊢
      obtain ⟨e, he⟩ := hall _ (List.mem_singleton_self _)
      obtain rfl : outcome = .error e := he
      rw [Keeper.step_passed hask hrun]
      rw [hkey] at hask hspared ⊢
      exact h.failed hask hspared (.error e)
  · rw [Keeper.handlings_other hsession, List.append_nil]
    exact h.elsewhere (Keeper.find_step_other hsession)

theorem checks (r : Report) (ss : List Session) (h : k.guard.Ledger s.circuitKey as w)
    (hall : ∀ a ∈ k.handlings s (k.checksFrom r ss w), a.Failed) :
    k.guard.Ledger s.circuitKey (as ++ k.handlings s (k.checksFrom r ss w))
      ((ss.foldlM k.step r : Effect σ τ Report).on w).2 := by
  induction ss generalizing r w as with
  | nil =>
    have hnone : k.handlings s (k.checksFrom r [] w) = [] := rfl
    rw [hnone, List.append_nil]
    exact h
  | cons x ss ih =>
    have hsplit : k.handlings s (k.checksFrom r (x :: ss) w) =
        k.handlings s [⟨r, x, w⟩] ++ k.handlings s (k.checksFrom ((k.step r x).on w).1 ss ((k.step r x).on w).2) :=
      k.handlings_append s [⟨r, x, w⟩] _
    rw [hsplit] at hall ⊢
    have hfirst : k.guard.Ledger s.circuitKey (as ++ k.handlings s [⟨r, x, w⟩]) (Check.after k ⟨r, x, w⟩) := by
      apply check h
      intro a ha
      exact hall a (List.mem_append_left _ ha)
    rw [← List.append_assoc, Keeper.foldlM_step_on]
    apply ih _ hfirst
    intro a ha
    exact hall a (List.mem_append_right _ ha)

/-- A pass keeps the ledger: its list of sessions is read under no circuit, and then it checks them. -/
theorem pass (p : Pass) (h : k.guard.Ledger s.circuitKey as w)
    (hall : ∀ a ∈ k.handlings s (k.checksOf p w), a.Failed) :
    k.guard.Ledger s.circuitKey (as ++ k.handlings s (k.checksOf p w)) ((k.overSessions p).on w).2 := by
  have hlisting : Advance ⟨fun _ => True, fun _ => False⟩ w ((k.registry.sessions p.status).on w).2 :=
    k.registry.within_sessions p.status (fun _ _ => trivial) (fun _ _ => trivial) w
  unfold Keeper.checksOf at hall ⊢
  rcases hlist : (k.registry.sessions p.status).on w with ⟨e | ss, v⟩
  · rw [hlist] at hlisting
    have hnone : k.handlings s ([] : List (Check σ τ)) = [] := rfl
    rw [Keeper.overSessions_unlisted p hlist, hnone, List.append_nil]
    exact h.elsewhere (hlisting.circuits _ id)
  · rw [hlist] at hlisting hall
    rw [Keeper.overSessions_on p hlist]
    have hlisted : k.guard.Ledger s.circuitKey as v := h.elsewhere (hlisting.circuits _ id)
    exact checks _ ss hlisted hall

/-- However many passes follow one another, as long as all handlings of the session fail these are spaced. -/
theorem run {rs : List (Round σ)} (h : k.guard.Ledger s.circuitKey as w)
    (hretains : k.Retains s.circuitKey rs w) (hall : ∀ a ∈ k.handlings s (k.checks rs w), a.Failed) :
    k.guard.Spaced (as ++ k.handlings s (k.checks rs w)) := by
  induction rs generalizing w as with
  | nil =>
    have hnone : k.handlings s (k.checks [] w) = [] := rfl
    rw [hnone, List.append_nil]
    exact h.spaced
  | cons r rs ih =>
    obtain ⟨hkeeps, hrest⟩ := hretains
    rw [Keeper.checks_cons, Keeper.handlings_append] at hall ⊢
    -- what happens outside, and pruning, leave the entry of the session alone
    have hstart : k.guard.Ledger s.circuitKey as (r.start w) := h.elsewhere rfl
    have hpass := hstart.pass r.pass fun a ha => hall a (List.mem_append_left _ ha)
    have hafter := hpass.elsewhere (v := k.afterPass r.pass (r.start w)) hkeeps
    rw [← List.append_assoc]
    apply ih hafter hrest
    intro a ha
    exact hall a (List.mem_append_right _ ha)

end Guard.Ledger

/-! ## The budget -/

/-- **Failures keep to the budget of their circuit.** Let a key have no entry.
However many retried calls follow one another under it, whatever is called and however often each is tried: if no
attempt succeeds, each attempt beyond the budget waits for the reset timeout after the failure before it, and
there are no more attempts than the budget if that time never passes. The same holds of the handlings of a
session in the passes of any run after which the circuit of the session is not pruned. -/
theorem Guard.failure_budget [Timeline τ] [Surroundings σ τ] (g : Guard τ) :
    (∀ {α : Type} (key : String) (w : World σ τ) (xs : List (Use σ τ α)), w.circuits.find key = none →
      g.InTurn key w xs → (∀ a ∈ xs.flatMap (g.attemptsOf key), a.Failed ∧ g.Spares key a) →
      g.KeepsBudget (xs.flatMap (g.attemptsOf key))) ∧
    (∀ (k : Keeper τ) (s : Session) (w : World σ τ) (rs : List (Round σ)), k.guard = g →
      w.circuits.find s.circuitKey = none → k.Retains s.circuitKey rs w →
      (∀ a ∈ k.handlings s (k.checks rs w), a.Failed) →
      g.KeepsBudget (k.handlings s (k.checks rs w))) := by
  refine ⟨?_, ?_⟩
  · intro α key w xs hnone hturn hall
    have hspaced := (Ledger.start (α := α) (g := g) hnone).uses hturn hall
    exact hspaced.keepsBudget
  · intro k s w rs hguard hnone hretains hall
    obtain rfl : k.guard = g := hguard
    have hspaced := (Ledger.start (α := Unit) (g := k.guard) hnone).run hretains hall
    exact hspaced.keepsBudget

/-! ### A rehearsal -/

def Guard.brittle : Guard Number := ⟨⟨2, .integer 60⟩, none⟩

namespace Rehearsal

/-- Every call fails in a way that may pass. The registry lists one active session, the provider nothing. -/
def busy : Rehearsal :=
  { plain with
    clock := .integer 0
    outcomes := [(.integer 1, .error (.call .server "busy" "op" (some 503)))]
    routes := [("GET /api/v1/sessions/status/ACTIVE",
      [answer 200 (.list [.object [("id", .text "a"), ("status", .text "ACTIVE")]])])] }

def minute (s : Rehearsal) : Rehearsal := s.advance (.integer 60)

/-- The call of the script is used twice, a minute apart. -/
def busyUses : List (Use Rehearsal Number Json) :=
  let ended := ((Guard.brittle.retry "op" 3 trial).on busy.world).2
  [⟨3, trial, busy.world⟩, ⟨3, trial, { ended with outside := ended.outside.minute }⟩]

def busyRounds : List (Round Rehearsal) := [⟨.active, id⟩, ⟨.active, id⟩, ⟨.active, id⟩, ⟨.active, minute⟩]

theorem find_trial (key : String) (w : World Rehearsal Number) :
    (trial.on w).2.circuits.find key = w.circuits.find key := by
  unfold trial
  rw [Act.on_bind, Act.on_get, Act.next_ok]
  rcases draw w.outside.outcomes with _ | ⟨⟨seconds, outcome⟩, rest⟩
  · rfl
  · rfl

end Rehearsal

/-- Of the attempts of two calls, and of the handlings in four passes, the circuit lets through two at once and
a third after a minute. -/
theorem Guard.failure_budget_busy :
    (let attempts := Rehearsal.busyUses.flatMap (brittle.attemptsOf "op")
     attempts.length = 3 ∧ brittle.KeepsBudget attempts) ∧
    (let k := Keeper.rehearsed brittle true
     let attempts := k.handlings (.rehearsed "a") (k.checks Rehearsal.busyRounds Rehearsal.busy.world)
     attempts.length = 3 ∧ brittle.KeepsBudget attempts) := by
  obtain ⟨hcalls, hpasses⟩ := failure_budget (σ := Rehearsal) brittle
  refine ⟨⟨by decide +kernel, ?_⟩, by decide +kernel, ?_⟩
  · have hfailed : ∀ a ∈ Rehearsal.busyUses.flatMap (brittle.attemptsOf "op"), a.Failed := by decide +kernel
    refine hcalls "op" Rehearsal.busy.world Rehearsal.busyUses rfl ⟨rfl, rfl, trivial⟩ ?_
    intro a ha
    obtain ⟨x, hx, hax⟩ := List.mem_flatMap.mp ha
    have hcall : ∀ x ∈ Rehearsal.busyUses, x.call = Rehearsal.trial := by simp [Rehearsal.busyUses]
    refine ⟨hfailed a ha, spares_attemptsOf ?_ a hax⟩
    rw [hcall x hx]
    exact Rehearsal.find_trial "op"
  · refine hpasses _ _ _ _ rfl rfl ⟨?_, ?_, ?_, ?_, trivial⟩ (by decide +kernel)
    · exact keeps_of_recent (by decide +kernel)
    · exact keeps_of_recent (by decide +kernel)
    · exact keeps_of_recent (by decide +kernel)
    · exact keeps_of_recent (by decide +kernel)

end SessionKeeper

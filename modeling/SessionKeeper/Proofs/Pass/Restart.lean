import SessionKeeper.Proofs.Circuit.Keys
import SessionKeeper.Proofs.Circuit.Sending
import SessionKeeper.Proofs.Pass.Run

/-!
# Starting the stopped workspaces

Where some workspaces of an active session run and some do not, the latter are started one after another, each under
its own circuit. A failure keeps none of the others from being started, but the last one is the outcome.

* `Start`, `Keeper.startsFrom`, `Keeper.afterStarts` : the starts of some workspaces, one after another.
* `Start.IsTried`, `Start.isTried` : what becomes of one start.
* `Keeper.startFaults`, `Keeper.startedCount`, `Keeper.startAll_ordinary` : what all of them come to.
* `Keeper.spares_starts` : starts of workspaces of different ids do not meet each other's circuits.
* `Keeper.starts_tried` : every stopped workspace gets its attempts.
-/

namespace SessionKeeper

variable {σ τ α : Type}

/-- The outcome is a value or a fault of the keeper's own. -/
def isOrdinary : Except Fault α → Bool
  | .ok _ => true
  | .error e => e.isOwn

/-! ## One start -/

/-- A start of a workspace, and the world in which its turn comes. -/
structure Start (σ τ : Type) where
  workspace : Workspace
  before : World σ τ

namespace Start

variable [Timeline τ] [Surroundings σ τ]

def key (t : Start σ τ) : String := Keeper.startKey t.workspace.id

/-- What the start comes to with all its attempts. -/
def run (k : Keeper τ) (t : Start σ τ) : Except Fault Unit × World σ τ :=
  (k.guard.retry t.key Keeper.startAttempts (k.provider.start t.workspace.id)).on t.before

def fault? (k : Keeper τ) (t : Start σ τ) : Option Fault :=
  match (t.run k).1 with
  | .ok _ => none
  | .error e => some e

/-- The calls for the start that its circuit lets through. -/
def attempts (k : Keeper τ) (t : Start σ τ) : List (Attempt σ τ Unit) :=
  k.guard.attemptsOf t.key ⟨Keeper.startAttempts, k.provider.start t.workspace.id, t.before⟩

def IsOrdinary (k : Keeper τ) (t : Start σ τ) : Prop := ∀ a ∈ t.attempts k, isOrdinary a.outcome = true

instance (k : Keeper τ) (t : Start σ τ) : Decidable (t.IsOrdinary k) :=
  inferInstanceAs (Decidable (∀ a ∈ t.attempts k, isOrdinary a.outcome = true))

/-- The start is tried under the key of its workspace, up to three times as long as its failures may pass. Each attempt
is one request to the provider. If the circuit rejects the first one, nothing is sent. The circuits of other
workspaces are left alone. -/
structure IsTried (k : Keeper τ) (t : Start σ τ) : Prop where
  retried : ∃ passing ending,
    k.guard.Retried t.key (k.provider.start t.workspace.id) 1 3 none t.before (t.run k) passing ending ∧
      (t.attempts k).map (·.outcome) = passing.map .error ++ ending.outcomes
  few : (t.attempts k).length ≤ 3
  requested : ∀ a ∈ t.attempts k, ∃ u ms reply, (k.guard.isOpen t.key).on a.asked = (false, u) ∧
    k.provider.Talk (k.provider.transitionCall t.workspace.id "start") u ms reply a.ended ∧ a.outcome = settled reply
  rejected : ∀ u, (k.guard.isOpen t.key).on t.before = (true, u) →
    t.attempts k = [] ∧ t.run k = (.error (.circuitOpen t.key none), u) ∧
      u.journal = .asked t.key true :: t.before.journal
  apart : ∀ id, id ≠ t.workspace.id → t.before.Spares (Keeper.startKey id) (t.run k).2

variable {k : Keeper τ} {t : Start σ τ}

theorem run_eq (k : Keeper τ) (t : Start σ τ) :
    t.run k = (k.guard.retryFrom t.key (k.provider.start t.workspace.id) 1 none 2).on t.before := by
  unfold run
  rw [k.guard.retry_eq _ _ (by decide)]
  rfl

theorem exists_retried (hlimit : k.guard.HasFiniteLimit) (t : Start σ τ) : ∃ passing ending,
    k.guard.Retried t.key (k.provider.start t.workspace.id) 1 3 none t.before (t.run k) passing ending ∧
      (t.attempts k).map (·.outcome) = passing.map .error ++ ending.outcomes := by
  obtain ⟨passing, ending, h⟩ := Guard.exists_retried hlimit t.key (k.provider.start t.workspace.id) none t.before
    (show 1 + 2 ≤ 1024 by decide)
  rw [← run_eq] at h
  exact ⟨passing, ending, h, h.outcomes⟩

theorem length_attempts_le (hlimit : k.guard.HasFiniteLimit) (t : Start σ τ) : (t.attempts k).length ≤ 3 := by
  obtain ⟨passing, ending, h, houtcomes⟩ := exists_retried hlimit t
  have hlast : ending.outcomes.length ≤ 1 := by cases ending <;> simp [Ending.outcomes]
  have hlength := congrArg List.length houtcomes
  rw [List.length_map, List.length_append, List.length_map] at hlength
  have hfew := h.few
  omega

/-- If all calls for a start end in an ordinary way, so does the start; a rejection is ordinary. -/
theorem IsOrdinary.run (hlimit : k.guard.HasFiniteLimit) (h : t.IsOrdinary k) : isOrdinary (t.run k).1 = true := by
  obtain ⟨passing, ending, hretried, houtcomes⟩ := exists_retried hlimit t
  rw [hretried.result]
  cases ending with
  | returned a => rfl
  | rejected => rfl
  | raised e =>
    have hlast : .error e ∈ (t.attempts k).map (·.outcome) := by
      rw [houtcomes]
      exact List.mem_append_right _ (List.mem_singleton_self _)
    obtain ⟨a, ha, houtcome⟩ := List.mem_map.mp hlast
    have hordinary := h a ha
    rw [houtcome] at hordinary
    exact hordinary

theorem requested (t : Start σ τ) : ∀ a ∈ t.attempts k, ∃ u ms reply, (k.guard.isOpen t.key).on a.asked = (false, u) ∧
    k.provider.Talk (k.provider.transitionCall t.workspace.id "start") u ms reply a.ended ∧
      a.outcome = settled reply := by
  intro a ha
  obtain ⟨u, hask, hcall⟩ := Guard.called_of_mem_attemptsFrom 1 2 t.before a ha
  obtain ⟨ms, htalk⟩ := k.provider.request_talk (k.provider.transitionCall t.workspace.id "start") u
  unfold Provider.start Provider.transition at hcall
  rw [Act.on_bind] at hcall
  rcases hrun : (k.provider.request (k.provider.transitionCall t.workspace.id "start")).on u with ⟨e | reply, v⟩
  · rw [hrun] at hcall htalk
    obtain ⟨houtcome, rfl⟩ : .error e = a.outcome ∧ v = a.ended := Prod.ext_iff.mp hcall
    exact ⟨u, ms, .error e, hask, htalk, houtcome.symm⟩
  · rw [hrun] at hcall htalk
    obtain ⟨houtcome, rfl⟩ : .ok () = a.outcome ∧ v = a.ended := Prod.ext_iff.mp hcall
    exact ⟨u, ms, .ok reply, hask, htalk, houtcome.symm⟩

theorem rejected {u : World σ τ} (hask : (k.guard.isOpen t.key).on t.before = (true, u)) :
    t.attempts k = [] ∧ t.run k = (.error (.circuitOpen t.key none), u) ∧
      u.journal = .asked t.key true :: t.before.journal := by
  have hjournal := k.guard.journal_isOpen t.key t.before
  rw [hask] at hjournal
  refine ⟨Guard.attemptsFrom_rejected hask 2, ?_, hjournal⟩
  rw [run_eq, Guard.retryFrom_rejected (by rw [hask]), hask]

theorem apart (k : Keeper τ) (t : Start σ τ) {id : String} (hid : id ≠ t.workspace.id) :
    t.before.Spares (Keeper.startKey id) (t.run k).2 := by
  have hkey : Keeper.startKey id ≠ t.key := by
    unfold key Keeper.startKey
    rw [ne_eq, String.append_right_inj]
    exact hid
  have hcall : (k.provider.start t.workspace.id : Act σ τ Unit).Keeps (World.Spares (Keeper.startKey id)) :=
    k.provider.keeps_start (World.Spares.course _) (fun _ _ => trivial) t.workspace.id fun _ _ => trivial
  exact k.guard.spares_retry hkey hcall Keeper.startAttempts t.before

theorem isTried (hlimit : k.guard.HasFiniteLimit) (t : Start σ τ) : t.IsTried k where
  retried := exists_retried hlimit t
  few := length_attempts_le hlimit t
  requested := requested t
  rejected _ hask := rejected hask
  apart _ hid := apart k t hid

end Start

/-! ## All starts -/

namespace Keeper

variable [Timeline τ] [Surroundings σ τ]

/-- The starts of some workspaces, one after another: each begins where the one before it ended. -/
def startsFrom (k : Keeper τ) : List Workspace → World σ τ → List (Start σ τ)
  | [], _ => []
  | x :: xs, w => ⟨x, w⟩ :: k.startsFrom xs (Start.run k ⟨x, w⟩).2

def afterStarts (k : Keeper τ) : List Workspace → World σ τ → World σ τ
  | [], w => w
  | x :: xs, w => k.afterStarts xs (Start.run k ⟨x, w⟩).2

/-- The failures of the starts, in their order. -/
def startFaults (k : Keeper τ) (ws : List Workspace) (w : World σ τ) : List Fault :=
  (k.startsFrom ws w).filterMap (·.fault? k)

/-- How many of the starts returned. -/
def startedCount (k : Keeper τ) (ws : List Workspace) (w : World σ τ) : Nat :=
  (k.startsFrom ws w).countP fun t => (t.fault? k).isNone

/-- The outcome of several starts: the last of the failures, if there are any. -/
def startsOutcome (k : Keeper τ) (ws : List Workspace) (w : World σ τ) : Except Fault Unit :=
  (k.startFaults ws w).getLast?.elim (.ok ()) .error

variable {k : Keeper τ} {x : Workspace} {ws : List Workspace} {w : World σ τ}

theorem map_workspace_startsFrom (k : Keeper τ) (ws : List Workspace) (w : World σ τ) :
    (k.startsFrom ws w).map (·.workspace) = ws := by
  induction ws generalizing w with
  | nil => rfl
  | cons x ws ih => rw [startsFrom, List.map_cons, ih]

theorem mem_of_mem_startsFrom {t : Start σ τ} (h : t ∈ k.startsFrom ws w) : t.workspace ∈ ws := by
  rw [← k.map_workspace_startsFrom ws w]
  exact List.mem_map_of_mem h

section

variable {o : Except Fault Unit} {e : Fault} {v : World σ τ}

theorem startsFrom_cons (hrun : Start.run k ⟨x, w⟩ = (o, v)) :
    k.startsFrom (x :: ws) w = ⟨x, w⟩ :: k.startsFrom ws v := by
  rw [startsFrom, hrun]

theorem startFaults_failed (hrun : Start.run k ⟨x, w⟩ = (.error e, v)) :
    k.startFaults (x :: ws) w = e :: k.startFaults ws v := by
  have hfault : Start.fault? k ⟨x, w⟩ = some e := by rw [Start.fault?, hrun]
  rw [startFaults, startsFrom_cons hrun, List.filterMap_cons_some hfault, startFaults]

theorem startFaults_started (hrun : Start.run k ⟨x, w⟩ = (.ok (), v)) :
    k.startFaults (x :: ws) w = k.startFaults ws v := by
  have hfault : Start.fault? k ⟨x, w⟩ = none := by rw [Start.fault?, hrun]
  rw [startFaults, startsFrom_cons hrun, List.filterMap_cons_none hfault, startFaults]

theorem startedCount_failed (hrun : Start.run k ⟨x, w⟩ = (.error e, v)) :
    k.startedCount (x :: ws) w = k.startedCount ws v := by
  have hfault : ¬ (Start.fault? k ⟨x, w⟩).isNone = true := by
    rw [Start.fault?, hrun]
    exact Bool.false_ne_true
  rw [startedCount, startsFrom_cons hrun, List.countP_cons, if_neg hfault, Nat.add_zero, startedCount]

theorem startedCount_started (hrun : Start.run k ⟨x, w⟩ = (.ok (), v)) :
    k.startedCount (x :: ws) w = k.startedCount ws v + 1 := by
  have hfault : (Start.fault? k ⟨x, w⟩).isNone = true := by rw [Start.fault?, hrun, Option.isNone_none]
  rw [startedCount, startsFrom_cons hrun, List.countP_cons, if_pos hfault, startedCount]

theorem afterStarts_cons (hrun : Start.run k ⟨x, w⟩ = (o, v)) : k.afterStarts (x :: ws) w = k.afterStarts ws v := by
  rw [afterStarts, hrun]

end

/-- Starts that end in an ordinary way are all made, those that return are counted, and the last failure is the
outcome. -/
theorem startAll_ordinary {last : Option Fault} {c : Counts}
    (hordinary : ∀ t ∈ k.startsFrom ws w, isOrdinary (t.run k).1 = true) :
    (k.startAll last ws).on c w =
      ((((k.startFaults ws w).getLast?.or last).elim (.ok ()) .error,
        { c with started := c.started + k.startedCount ws w }), k.afterStarts ws w) := by
  -- the failure so far is only overwritten, so it is general in the induction
  induction ws generalizing last c w with
  | nil => cases last <;> rfl
  | cons x ws ih =>
    obtain ⟨hfirst, hrest⟩ := List.forall_mem_cons.mp hordinary
    have hcons := k.startAll_cons last x ws c w
    rcases hrun : Start.run k ⟨x, w⟩ with ⟨e | ⟨⟩, v⟩
    · rw [hrun] at hfirst hrest
      have hown : e.isOwn = true := hfirst
      rw [startFaults_failed hrun, startedCount_failed hrun, afterStarts_cons hrun, getLast?_or_cons, ← ih hrest, hcons]
      unfold Start.run Start.key at hrun
      rw [hrun]
      exact if_pos hown
    · rw [hrun] at hrest
      have hcount : c.started + (k.startedCount ws v + 1) = c.started + 1 + k.startedCount ws v := by omega
      rw [startFaults_started hrun, startedCount_started hrun, afterStarts_cons hrun, hcount, hcons]
      unfold Start.run Start.key at hrun
      rw [hrun]
      exact ih hrest

theorem startsOutcome_ok_iff (k : Keeper τ) (ws : List Workspace) (w : World σ τ) :
    k.startsOutcome ws w = .ok () ↔ ∀ t ∈ k.startsFrom ws w, t.fault? k = none := by
  have hnone : k.startFaults ws w = [] ↔ ∀ t ∈ k.startsFrom ws w, t.fault? k = none := List.filterMap_eq_nil_iff
  rw [← hnone, ← List.getLast?_eq_none_iff, startsOutcome]
  cases (k.startFaults ws w).getLast? with
  | none => simp
  | some e => simp

theorem spares_afterStarts {id : String} (hid : id ∉ ws.map (·.id)) :
    w.Spares (startKey id) (k.afterStarts ws w) := by
  induction ws generalizing w with
  | nil => rfl
  | cons x ws ih =>
    rw [List.map_cons, List.mem_cons, not_or] at hid
    exact (World.Spares.course _).trans (Start.apart k ⟨x, w⟩ hid.1) (ih hid.2)

/-- Where no two workspaces have one id, each start meets the circuit that was there at first, and leaves the one that
is there at last. -/
theorem spares_starts (hids : (ws.map (·.id)).Nodup) : ∀ t ∈ k.startsFrom ws w,
    w.Spares t.key t.before ∧ (t.run k).2.Spares t.key (k.afterStarts ws w) := by
  induction ws generalizing w with
  | nil =>
    intro t ht
    cases ht
  | cons x ws ih =>
    rw [List.map_cons, List.nodup_cons] at hids
    obtain ⟨hx, hrest⟩ := hids
    intro t ht
    rcases List.mem_cons.mp ht with rfl | ht
    · exact ⟨rfl, spares_afterStarts hx⟩
    · have hother : t.workspace.id ≠ x.id :=
        fun heq => hx (heq ▸ List.mem_map_of_mem (mem_of_mem_startsFrom ht))
      obtain ⟨hbefore, hafter⟩ := ih hrest t ht
      exact ⟨(World.Spares.course _).trans (Start.apart k ⟨x, w⟩ hother) hbefore, hafter⟩

/-! ## Sessions with stopped workspaces -/

/-- The step of an active pass is let through and reads workspaces, some of which run; `ws` are those that are stopped,
and `w` is the world in which they are to be started. -/
structure FindsMixed (k : Keeper τ) (r : Report) (s : Session) (ws : List Workspace) (start w : World σ τ) : Prop where
  active : r.pass = .active
  stopped : ws ≠ []
  read : ∃ u all, (k.guard.isOpen s.circuitKey).on start = (false, u) ∧ (k.owned s).on u = (.ok all, w) ∧
    (∃ x ∈ all, x.IsRunning) ∧ all.filter (·.IsStopped) = ws

theorem step_mixed {r : Report} {s : Session} {start v : World σ τ} {c : Counts} {outcome : Except Fault Unit}
    (h : k.FindsMixed r s ws start w) (hrun : (k.startAll none ws).on r.counts w = ((outcome, c), v)) :
    (k.step r s).on start = (advanced r c outcome, ((k.guard.record s.circuitKey outcome).on v).2) := by
  obtain ⟨u, all, hask, hread, hrunning, rfl⟩ := h.read
  obtain ⟨x, hx⟩ := List.exists_mem_of_ne_nil _ h.stopped
  have hstopped : ∃ x ∈ all, x.IsStopped := ⟨x, by simpa using List.mem_filter.mp hx⟩
  have hhandled : (k.handle r.pass s).on r.counts u = ((outcome, c), v) := by
    rw [h.active, ← hrun]
    exact handleActive_mixed hread hrunning hstopped r.counts
  exact step_passed hask hhandled

/-- **Every stopped workspace gets its attempts.** Let the calls that start some workspaces end in values or in faults
of the keeper's own. Then the workspaces are started one after another, each once, in their order and under its own
key, with up to three calls; a call whose token is refused is sent again when the token was renewed. Those that return
are counted. The outcome is a failure if and only if one of them failed, and then it is the last failure; by it a
session with running and stopped workspaces counts as failed or processed, and what was started stays counted. A start
that its circuit rejects at first sends nothing. No start touches the circuit of a workspace with another id, so if no
two have one id, each meets the circuit that was there at first. -/
theorem starts_tried (hlimit : k.guard.HasFiniteLimit) (hordinary : ∀ t ∈ k.startsFrom ws w, t.IsOrdinary k) :
    (k.startsFrom ws w).map (·.workspace) = ws ∧
    (∀ t ∈ k.startsFrom ws w, t.IsTried k) ∧
    (∀ c, (k.startAll none ws).on c w =
      ((k.startsOutcome ws w, { c with started := c.started + k.startedCount ws w }), k.afterStarts ws w)) ∧
    (k.startsOutcome ws w = .ok () ↔ ∀ t ∈ k.startsFrom ws w, t.fault? k = none) ∧
    (∀ r s start, k.FindsMixed r s ws start w →
      (k.step r s).on start =
        (advanced r { r.counts with started := r.counts.started + k.startedCount ws w } (k.startsOutcome ws w),
          ((k.guard.record s.circuitKey (k.startsOutcome ws w)).on (k.afterStarts ws w)).2)) ∧
    ((ws.map (·.id)).Nodup → ∀ t ∈ k.startsFrom ws w,
      w.Spares t.key t.before ∧ (t.run k).2.Spares t.key (k.afterStarts ws w)) := by
  have hall (c : Counts) : (k.startAll none ws).on c w =
      ((k.startsOutcome ws w, { c with started := c.started + k.startedCount ws w }), k.afterStarts ws w) := by
    rw [startAll_ordinary fun t ht => (hordinary t ht).run hlimit, Option.or_none, startsOutcome]
  exact ⟨k.map_workspace_startsFrom ws w, fun t _ => t.isTried hlimit, hall, k.startsOutcome_ok_iff ws w,
    fun r s start hmixed => step_mixed hmixed (hall r.counts), spares_starts⟩

end Keeper

namespace Rehearsal

/-- A session has a running workspace and three stopped ones. The start of the first one succeeds when it is tried
again, that of the second one is refused for good, and the circuit of the third one is open. -/
def stopped : Rehearsal :=
  let listed (id status : String) : Json := .object [("id", .text id), ("name", .text "ws-0fcfba18-alpha-0000"),
    ("latest_build", .object [("status", .text status)])]
  { plain with
    clock := .integer 0
    routes := [
      ("GET /api/v2/workspaces",
        [answer 200 (.list [listed "r" "running", listed "u" "stopped", listed "v" "stopped", listed "w" "stopped"])]),
      ("POST /api/v2/workspaces/u/builds", [answer 503 .null, answer 201 .null]),
      ("POST /api/v2/workspaces/v/builds", [answer 404 .null]),
      ("*", [answer 200 .null])] }

def stoppedWorld : World Rehearsal Number :=
  { stopped.world with circuits := [(Keeper.startKey "w", ⟨5, .integer 0, .opened⟩)] }

end Rehearsal

/-- The starts make two calls, one and none, the first of them is counted, and the session counts as failed. -/
theorem Keeper.starts_tried_stopped :
    let k := Keeper.rehearsed ⟨⟨5, .integer 60⟩, none⟩ false
    let r := Report.empty .active
    let s := Session.rehearsed "0fcfba18-b832"
    ∃ ws w, k.FindsMixed r s ws Rehearsal.stoppedWorld w ∧
      (k.startsFrom ws w).map (fun t => (t.attempts k).length) = [2, 1, 0] ∧
      (∀ t ∈ k.startsFrom ws w, t.IsOrdinary k ∧ t.IsTried k) ∧
      ((k.step r s).on Rehearsal.stoppedWorld).1 =
        { r with counts := { r.counts with started := 1 }, failed := 1 } := by
  intro k r s
  have hlimit : k.guard.HasFiniteLimit := fun _ hlimit => nomatch hlimit
  have hread : ((k.guard.isOpen s.circuitKey).on Rehearsal.stoppedWorld).1 = false ∧
      (k.owned s).Returns ((k.guard.isOpen s.circuitKey).on Rehearsal.stoppedWorld).2 fun all w =>
        (∃ x ∈ all, x.IsRunning) ∧ all.filter (·.IsStopped) ≠ [] ∧
        (∀ t ∈ k.startsFrom (all.filter (·.IsStopped)) w, t.IsOrdinary k) ∧
        (k.startsFrom (all.filter (·.IsStopped)) w).map (fun t => (t.attempts k).length) = [2, 1, 0] ∧
        k.startedCount (all.filter (·.IsStopped)) w = 1 ∧
        ∃ t ∈ k.startsFrom (all.filter (·.IsStopped)) w, t.fault? k |>.isSome := by
    decide +kernel
  obtain ⟨hpassed, hread⟩ := hread
  obtain ⟨all, w, howned, hrunning, hstopped, hordinary, hattempts, hcount, t, ht, hfault⟩ := hread.exists_on
  have hmixed : k.FindsMixed r s (all.filter (·.IsStopped)) Rehearsal.stoppedWorld w :=
    ⟨rfl, hstopped, _, all, Prod.ext hpassed rfl, howned, hrunning, rfl⟩
  obtain ⟨-, htried, -, hok, hstep, -⟩ := starts_tried hlimit hordinary
  refine ⟨_, w, hmixed, hattempts, fun t ht => ⟨hordinary t ht, htried t ht⟩, ?_⟩
  rw [hstep r s _ hmixed, hcount]
  cases houtcome : k.startsOutcome (all.filter (·.IsStopped)) w with
  | ok _ =>
    rw [hok.mp houtcome t ht] at hfault
    cases hfault
  | error e => rfl

end SessionKeeper

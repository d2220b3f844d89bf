import Mathlib.Data.List.Basic
import Mathlib.Data.List.Induction
import SessionKeeper.Timetable

/-!
# The life of a timetable

A timetable rests or runs. Tasks are added while it rests, and it runs with a loop for each of them from a start that
succeeds to the next stop.

* `Timetable.Call`, `Timetable.call` : what may be asked of a timetable, and how it ends.
* `Timetable.Step`, `Timetable.step_call` : everything that one call can do.
* `Timetable.journal`, `Timetable.after` : calls one after another, and the timetable behind them.
* `Timetable.Entry.Obeys`, `Timetable.ComesTo`, `Timetable.life_cycle` : what holds of every call, and what the calls
  come to.
-/

namespace SessionKeeper

namespace Timetable

variable {α : Type} {t t' : Timetable α} {workers : Int}

/-! ## Calls -/

/-- What may be asked of a timetable. -/
inductive Call (α : Type) where
  | add (task : Routine α)
  | start
  | stop
  | runOnce (name : String)

/-- How a call ends; a single run ends with the task that is performed. -/
abbrev Outcome (α : Type) := Except Fault (Option (Routine α))

def told : Option Fault → Outcome α
  | some e => .error e
  | none => .ok none

def call (t : Timetable α) : Call α → Outcome α × Timetable α
  | .add task => (told (t.add task).1, (t.add task).2)
  | .start => (told t.start.1, t.start.2)
  | .stop => (.ok none, t.stop)
  | .runOnce name => ((t.find name).map some, t)

/-- What a call can do to a timetable that has workers. -/
inductive Step (t : Timetable α) : Call α → Outcome α → Timetable α → Prop
  | noInterval {task : Routine α} (hinterval : task.interval ≤ 0) :
    Step t (.add task) (.error (.badValue (intervalMessage task.name) none)) t
  | tooLate {task : Routine α} (hinterval : ¬ task.interval ≤ 0) (hruns : t.isRunning = true) :
    Step t (.add task) (.error (.badState runningMessage)) t
  | added {task : Routine α} (hinterval : ¬ task.interval ≤ 0) (hrests : t.isRunning = false) :
    Step t (.add task) (.ok none) { t with tasks := t.tasks ++ [task] }
  | goesOn (hruns : t.isRunning = true) : Step t .start (.ok none) t
  | tooMany (hrests : t.isRunning = false) (hmany : t.workers < t.tasks.length) :
    Step t .start (.error (.badValue (workersMessage t.tasks.length t.workers) none)) t
  | begun (hrests : t.isRunning = false) (hfew : t.tasks.length ≤ t.workers) :
    Step t .start (.ok none) { t with loops := some t.tasks, stopSignal := false }
  | ended (hruns : t.isRunning = true) : Step t .stop (.ok none) { t with loops := none, stopSignal := true }
  | rests (hrests : t.isRunning = false) : Step t .stop (.ok none) t
  | performed {name : String} {task : Routine α} (htask : t.tasks.find? (·.name == name) = some task) :
    Step t (.runOnce name) (.ok (some task)) t
  | unknown {name : String} (htask : t.tasks.find? (·.name == name) = none) :
    Step t (.runOnce name) (.error (.missingKey (.name name))) t

theorem step_add (t : Timetable α) (task : Routine α) :
    Step t (.add task) (t.call (.add task)).1 (t.call (.add task)).2 := by
  unfold call add refusal?
  dsimp only
  split_ifs with hinterval hruns
  · exact .noInterval hinterval
  · exact .tooLate hinterval hruns
  · exact .added hinterval (Bool.not_eq_true _ ▸ hruns)

theorem step_start (hworkers : 1 ≤ t.workers) : Step t .start (t.call .start).1 (t.call .start).2 := by
  unfold call start
  dsimp only
  split_ifs with hruns hmany hnone
  · exact .goesOn hruns
  · exact .tooMany (Bool.not_eq_true _ ▸ hruns) hmany
  · omega
  · exact .begun (Bool.not_eq_true _ ▸ hruns) (by omega)

theorem step_stop (t : Timetable α) : Step t .stop (t.call .stop).1 (t.call .stop).2 := by
  unfold call stop
  dsimp only
  split_ifs with hruns
  · exact .ended hruns
  · exact .rests (Bool.not_eq_true _ ▸ hruns)

theorem step_runOnce (t : Timetable α) (name : String) :
    Step t (.runOnce name) (t.call (.runOnce name)).1 (t.call (.runOnce name)).2 := by
  unfold call find
  dsimp only
  cases htask : t.tasks.find? (·.name == name) with
  | some task => exact .performed htask
  | none => exact .unknown htask

theorem step_call (hworkers : 1 ≤ t.workers) (c : Call α) : Step t c (t.call c).1 (t.call c).2 := by
  cases c with
  | add task => exact step_add t task
  | start => exact step_start hworkers
  | stop => exact step_stop t
  | runOnce name => exact step_runOnce t name

theorem Step.workers_eq {c : Call α} {outcome : Outcome α} (h : Step t c outcome t') : t'.workers = t.workers := by
  cases h <;> rfl

/-! ## Calls one after another -/

/-- A call that was made, with the timetable in front of it and the one behind it. -/
structure Entry (α : Type) where
  before : Timetable α
  call : Call α
  outcome : Outcome α
  after : Timetable α

def entry (t : Timetable α) (c : Call α) : Entry α := ⟨t, c, (t.call c).1, (t.call c).2⟩

/-- The calls as they are made one after another. -/
def journal (t : Timetable α) : List (Call α) → List (Entry α)
  | [] => []
  | c :: rest => t.entry c :: journal (t.call c).2 rest

def after (t : Timetable α) (calls : List (Call α)) : Timetable α := calls.foldl (fun t c => (t.call c).2) t

theorem journal_append (t : Timetable α) (calls more : List (Call α)) :
    journal t (calls ++ more) = journal t calls ++ journal (t.after calls) more := by
  induction calls generalizing t with
  | nil => rfl
  | cons c rest ih => exact congrArg (t.entry c :: ·) (ih (t.call c).2)

theorem journal_snoc (t : Timetable α) (calls : List (Call α)) (c : Call α) :
    journal t (calls ++ [c]) = journal t calls ++ [(t.after calls).entry c] := journal_append t calls [c]

theorem after_snoc (t : Timetable α) (calls : List (Call α)) (c : Call α) :
    t.after (calls ++ [c]) = ((t.after calls).call c).2 := by
  rw [after, List.foldl_append]
  rfl

namespace Entry

variable {e : Entry α}

def Succeeded (e : Entry α) : Prop := ∃ performed, e.outcome = .ok performed

/-- The call is a start or a stop that changed the timetable. -/
def Switches (e : Entry α) : Prop := (e.call = .start ∨ e.call = .stop) ∧ e.after ≠ e.before

def added? (e : Entry α) : Option (Routine α) :=
  match e.call, e.outcome with
  | .add task, .ok _ => some task
  | _, _ => none

theorem filterMap_added (e : Entry α) : [e].filterMap added? = e.added?.toList := by
  cases h : e.added? <;> simp [h]

/-- The call did to the timetable what it can do. -/
def Made (workers : Int) (e : Entry α) : Prop := e.before.workers = workers ∧ Step e.before e.call e.outcome e.after

end Entry

theorem made_of_mem {calls : List (Call α)} {e : Entry α} (hworkers : 1 ≤ t.workers) (he : e ∈ journal t calls) :
    e.Made t.workers := by
  induction calls generalizing t with
  | nil => cases he
  | cons c rest ih =>
    have hstep := step_call hworkers c
    rcases List.mem_cons.mp he with rfl | hlater
    · exact ⟨rfl, hstep⟩
    · -- the bound on the workers is one on those of the timetable that is left
      have hsame := hstep.workers_eq
      rw [← hsame] at hworkers ⊢
      exact ih hworkers hlater

/-- The latest call that switched the timetable was a start that succeeded. -/
def LastStarted (entries : List (Entry α)) : Prop :=
  ∃ front e back, entries = front ++ e :: back ∧ e.call = .start ∧ e.Succeeded ∧ e.Switches ∧
    ∀ later ∈ back, ¬ later.Switches

theorem lastStarted_snoc {entries : List (Entry α)} {e : Entry α} :
    LastStarted (entries ++ [e]) ↔
      (e.call = .start ∧ e.Succeeded ∧ e.Switches) ∨ (¬ e.Switches ∧ LastStarted entries) := by
  constructor
  · rintro ⟨front, e', back, hentries, hstart, hdone, hswitch, hback⟩
    -- the start is the last call itself, or the last call is one of those behind it
    rcases List.eq_nil_or_concat' back with rfl | ⟨back, last, rfl⟩
    · obtain ⟨rfl, rfl⟩ := List.append_inj' hentries rfl |>.imp_right List.singleton_inj.mp
      exact Or.inl ⟨hstart, hdone, hswitch⟩
    · have hsplit : entries ++ [e] = (front ++ e' :: back) ++ [last] := by simp [hentries]
      obtain ⟨rfl, hlast⟩ := List.append_inj' hsplit rfl
      obtain rfl := List.singleton_inj.mp hlast
      refine Or.inr ⟨hback e (by simp), front, e', back, rfl, hstart, hdone, hswitch, ?_⟩
      exact fun later hlater => hback later (List.mem_append_left _ hlater)
  · rintro (⟨hstart, hdone, hswitch⟩ | ⟨hquiet, front, e', back, rfl, hstart, hdone, hswitch, hback⟩)
    · exact ⟨entries, e, [], rfl, hstart, hdone, hswitch, by simp⟩
    · refine ⟨front, e', back ++ [e], by simp, hstart, hdone, hswitch, ?_⟩
      intro later hlater
      rcases List.mem_append.mp hlater with hearly | hlast
      · exact hback later hearly
      · rwa [List.mem_singleton.mp hlast]

/-! ## What the calls come to -/

/-- While a timetable runs, there is a loop for each of its tasks, and the signal to end is not given. -/
def Sound (t : Timetable α) : Prop := ∀ loops, t.loops = some loops → loops = t.tasks ∧ t.stopSignal = false

theorem isRunning_eq_false : t.isRunning = false ↔ t.loops = none := by
  rw [isRunning, Option.isSome_eq_false_iff, Option.isNone_iff_eq_none]

theorem Step.sound {c : Call α} {outcome : Outcome α} (h : Step t c outcome t') (ht : t.Sound) : t'.Sound := by
  cases h with
  | added hinterval hrests =>
    intro loops hloops
    rw [isRunning_eq_false.mp hrests] at hloops
    cases hloops
  | begun hrests hfew =>
    rintro loops ⟨⟩
    exact ⟨rfl, rfl⟩
  | ended hruns => rintro loops ⟨⟩
  | _ => exact ht

/-- One call more: the timetable runs if the call starts it, or if it ran before and the call does not stop it. -/
theorem Step.isRunning_iff {e : Entry α} (h : Step e.before e.call e.outcome e.after) :
    e.after.isRunning = true ↔
      (e.call = .start ∧ e.Succeeded ∧ e.Switches) ∨ (¬ e.Switches ∧ e.before.isRunning = true) := by
  obtain ⟨before, call, outcome, after⟩ := e
  dsimp only at h
  unfold Entry.Switches Entry.Succeeded
  dsimp only
  cases h with
  | added hinterval hrests => simp [isRunning]
  | begun hrests hfew =>
    have hloops := isRunning_eq_false.mp hrests
    refine iff_of_true rfl (Or.inl ⟨rfl, ⟨none, rfl⟩, Or.inl rfl, fun hsame => ?_⟩)
    have hboth := congrArg Timetable.loops hsame
    rw [hloops] at hboth
    cases hboth
  | ended hruns =>
    refine iff_of_false Bool.false_ne_true ?_
    rintro (⟨⟨⟩, -⟩ | ⟨hquiet, -⟩)
    refine hquiet ⟨Or.inr rfl, fun hsame => ?_⟩
    rw [← hsame] at hruns
    cases hruns
  | _ => simp

theorem Step.tasks_eq {e : Entry α} (h : Step e.before e.call e.outcome e.after) :
    e.after.tasks = e.before.tasks ++ e.added?.toList := by
  obtain ⟨before, call, outcome, after⟩ := e
  dsimp only at h
  cases h <;> simp [Entry.added?]

/-- What calls come to. -/
structure ComesTo (t : Timetable α) (entries : List (Entry α)) : Prop where
  running : t.isRunning = true ↔ LastStarted entries
  tasks : t.tasks = entries.filterMap Entry.added?
  sound : t.Sound

theorem comesTo_after (hworkers : 1 ≤ workers) (calls : List (Call α)) :
    ((empty workers).after calls).ComesTo (journal (empty workers) calls) ∧
      ((empty workers).after calls).workers = workers := by
  -- the latest switch is a matter of the last call, so calls are added at the end
  induction calls using List.reverseRecOn with
  | nil =>
    refine ⟨⟨?_, rfl, nofun⟩, rfl⟩
    refine iff_of_false Bool.false_ne_true ?_
    rintro ⟨front, e, back, hentries, -⟩
    simp [journal] at hentries
  | append_singleton calls c ih =>
    obtain ⟨⟨hrunning, htasks, hsound⟩, hsame⟩ := ih
    have hstep : Step ((empty workers).after calls) c _ _ := step_call (hsame.symm ▸ hworkers) c
    rw [journal_snoc, after_snoc]
    refine ⟨⟨?running, ?tasks, hstep.sound hsound⟩, hstep.workers_eq.trans hsame⟩
    case running =>
      rw [lastStarted_snoc, ← hrunning]
      exact Step.isRunning_iff (e := entry _ c) hstep
    case tasks =>
      rw [List.filterMap_append, ← htasks, Entry.filterMap_added]
      exact Step.tasks_eq (e := entry _ c) hstep

structure Entry.Adds (e : Entry α) (task : Routine α) : Prop where
  succeeds : e.Succeeded ↔ ¬ task.interval ≤ 0 ∧ e.before.isRunning = false
  interval : task.interval ≤ 0 → e.outcome = .error (.badValue (intervalMessage task.name) none)
  state : ¬ task.interval ≤ 0 → e.before.isRunning = true → e.outcome = .error (.badState runningMessage)

structure Entry.Starts (e : Entry α) : Prop where
  running : e.before.isRunning = true → e.Succeeded ∧ e.after = e.before
  crowded : e.before.isRunning = false → e.before.workers < e.before.tasks.length →
    e.outcome = .error (.badValue (workersMessage e.before.tasks.length e.before.workers) none) ∧ e.after = e.before
  begun : e.before.isRunning = false → e.before.tasks.length ≤ e.before.workers →
    e.Succeeded ∧ e.after = { e.before with loops := some e.before.tasks, stopSignal := false }

structure Entry.Stops (e : Entry α) : Prop where
  succeeds : e.Succeeded
  running : e.before.isRunning = true → e.after = { e.before with loops := none, stopSignal := true }
  resting : e.before.isRunning = false → e.after = e.before

/-- What holds of every call. -/
structure Entry.Obeys (e : Entry α) : Prop where
  add : ∀ task, e.call = .add task → e.Adds task
  start : e.call = .start → e.Starts
  stop : e.call = .stop → e.Stops
  once : ∀ name, e.call = .runOnce name → e.after = e.before
  failed : ¬ e.Succeeded → e.after = e.before

section Steps

variable {outcome : Outcome α}

theorem Step.adds {task : Routine α} (h : Step t (.add task) outcome t') :
    (Entry.mk t (.add task) outcome t').Adds task := by
  cases h with
  | noInterval hinterval =>
    exact ⟨iff_of_false nofun fun hboth => hboth.1 hinterval, fun _ => rfl, fun hother => absurd hinterval hother⟩
  | tooLate hinterval hruns =>
    refine ⟨iff_of_false nofun fun hboth => ?_, fun hother => absurd hother hinterval, fun _ _ => rfl⟩
    exact Bool.false_ne_true (hboth.2.symm.trans hruns)
  | added hinterval hrests =>
    refine ⟨iff_of_true ⟨none, rfl⟩ ⟨hinterval, hrests⟩, fun hother => absurd hother hinterval, fun _ hruns => ?_⟩
    exact absurd (hrests.symm.trans hruns) Bool.false_ne_true

theorem Step.starts (h : Step t .start outcome t') : (Entry.mk t .start outcome t').Starts := by
  have hnever (hrests : t.isRunning = false) (hruns : t.isRunning = true) : False :=
    Bool.false_ne_true (hrests.symm.trans hruns)
  cases h with
  | goesOn hruns =>
    exact ⟨fun _ => ⟨⟨none, rfl⟩, rfl⟩, fun hrests => (hnever hrests hruns).elim,
      fun hrests => (hnever hrests hruns).elim⟩
  | tooMany hrests hmany =>
    exact ⟨fun hruns => (hnever hrests hruns).elim, fun _ _ => ⟨rfl, rfl⟩,
      fun _ hfew => absurd hmany (Int.not_lt.mpr hfew)⟩
  | begun hrests hfew =>
    exact ⟨fun hruns => (hnever hrests hruns).elim, fun _ hmany => absurd hmany (Int.not_lt.mpr hfew),
      fun _ _ => ⟨⟨none, rfl⟩, rfl⟩⟩

theorem Step.stops (h : Step t .stop outcome t') : (Entry.mk t .stop outcome t').Stops := by
  cases h with
  | ended hruns =>
    exact ⟨⟨none, rfl⟩, fun _ => rfl, fun hrests => absurd (hrests.symm.trans hruns) Bool.false_ne_true⟩
  | rests hrests =>
    exact ⟨⟨none, rfl⟩, fun hruns => absurd (hrests.symm.trans hruns) Bool.false_ne_true, fun _ => rfl⟩

theorem Step.obeys {c : Call α} (h : Step t c outcome t') : (Entry.mk t c outcome t').Obeys where
  add := by
    rintro task rfl
    exact h.adds
  start := by
    rintro rfl
    exact h.starts
  stop := by
    rintro rfl
    exact h.stops
  once := by
    rintro name rfl
    cases h <;> rfl
  failed := by
    intro hfailed
    unfold Entry.Succeeded at hfailed
    cases h <;> simp at hfailed ⊢

end Steps

/-- **The life of a timetable.** Whatever is asked of a timetable that has workers, in any order: it runs exactly if
the latest start or stop that switched it was a start that succeeded; its tasks are those that were added with success,
in order; and while it runs, each of them has its one loop and the signal to end is not given. A task is added exactly
if its interval is not zero or less and the timetable rests, and the interval is looked at first; a start makes no
second loops, and fails if there are more tasks than workers; a stop gives the signal. A call that fails changes
nothing, so that everything after it goes as it would have gone without it. -/
theorem life_cycle (hworkers : 1 ≤ workers) (calls : List (Call α)) :
    ((empty workers).after calls).ComesTo (journal (empty workers) calls) ∧
      ∀ e ∈ journal (empty workers) calls, e.before.workers = workers ∧ e.Obeys := by
  refine ⟨(comesTo_after hworkers calls).1, ?_⟩
  intro e he
  have hmade := made_of_mem (t := empty workers) hworkers he
  exact ⟨hmade.1, hmade.2.obeys⟩

/-- A timetable that runs takes no task, and one that was stopped starts with all that were added. -/
theorem life_cycle_restarted :
    let a : Routine Unit := ⟨"a", 60, (), 60⟩
    let b : Routine Unit := ⟨"b", 1, (), 0⟩
    let calls := [.add a, .add ⟨"c", 0, (), 0⟩, .start, .add b, .start, .stop, .add b, .start]
    1 ≤ (2 : Int) ∧ ((empty 2).after calls).ComesTo (journal (empty 2) calls) ∧
      (empty 2).after calls = ⟨2, [a, b], some [a, b], false⟩ ∧
      (journal (empty 2) calls).filterMap Entry.added? = [a, b] := by
  intro a b calls
  have htwo : 1 ≤ (2 : Int) := by decide
  exact ⟨htwo, (life_cycle htwo calls).1, rfl, rfl⟩

end Timetable

end SessionKeeper

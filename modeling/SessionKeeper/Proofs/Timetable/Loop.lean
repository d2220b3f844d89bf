import Mathlib.Data.List.Chain
import SessionKeeper.Timetable.Loop

/-!
# What a loop does

A loop has no end of its own, so it is followed for a number of rounds; more rounds go on where fewer left off. What
comes of a run is noted and has no influence.

* `Loop.Rounds`, `Loop.Course` : rounds and whole loops as relations, which the functions compute.
* `Loop.Event.Follows`, `Loop.Orderly` : what may stand directly behind an event, and how a trace begins and ends.
* `Loop.Orderly.before_run`, `Loop.Orderly.after_run`, `Loop.Orderly.ended` : what surrounds a run and what ends a
  trace.
* `Loop.Course.outline_eq`, `Loop.Course.alike` : the trace depends on the answers of the signal alone.
* `Loop.obeys_signal` : all of it.
-/

namespace SessionKeeper

namespace Loop

variable {σ τ : Type} {signal : Signal σ} {other : Signal τ} {interval delay : Number} {n : Nat}
  {s s' : σ} {t t' : τ} {trace : List Event}

/-! ## Events -/

namespace Event

/-- The answer of the signal, where it was asked. -/
def answer? : Event → Option Bool
  | waited _ given => some given
  | looked given => some given
  | ran _ => none

/-- The event, whatever came of a run. -/
def outline : Event → Event
  | ran _ => ran none
  | e => e

def isRun : Event → Bool
  | ran _ => true
  | _ => false

/-- What may stand directly behind an event. -/
inductive Follows (interval : Number) : Event → Event → Prop
  | run {fault : Option Fault} : Follows interval (looked false) (ran fault)
  | wait {fault : Option Fault} {given : Bool} : Follows interval (ran fault) (waited interval given)
  | look {seconds : Number} {given : Bool} : Follows interval (waited seconds false) (looked given)

theorem Follows.answer_ne {e e' : Event} (h : Follows interval e e') : e.answer? ≠ some true := by
  cases h <;> simp [answer?]

end Event

def answers (trace : List Event) : List Bool := trace.filterMap Event.answer?

/-- The trace, whatever came of its runs. -/
def outline (trace : List Event) : List Event := trace.map Event.outline

/-- How often the task was run. -/
def runs (trace : List Event) : Nat := trace.countP Event.isRun

/-- The signal was seen to be given. -/
def Returned (trace : List Event) : Prop := true ∈ answers trace

section Views

variable {seconds : Number} {given : Bool} {fault : Option Fault}

@[simp] theorem answers_nil : answers [] = [] := rfl

@[simp] theorem answers_waited : answers (.waited seconds given :: trace) = given :: answers trace := rfl

@[simp] theorem answers_looked : answers (.looked given :: trace) = given :: answers trace := rfl

@[simp] theorem answers_ran : answers (.ran fault :: trace) = answers trace := rfl

@[simp] theorem outline_nil : outline [] = [] := rfl

@[simp] theorem outline_cons {e : Event} : outline (e :: trace) = e.outline :: outline trace := rfl

@[simp] theorem outline_ran : (Event.ran fault).outline = .ran none := rfl

@[simp] theorem runs_waited : runs (.waited seconds given :: trace) = runs trace := rfl

@[simp] theorem runs_looked : runs (.looked given :: trace) = runs trace := rfl

@[simp] theorem runs_ran : runs (.ran fault :: trace) = runs trace + 1 := List.countP_cons_of_pos rfl

end Views

/-! ## Rounds -/

/-- Rounds of a loop, with the state in front of them and the state behind them. -/
inductive Rounds (signal : Signal σ) (interval : Number) : Nat → σ → List Event → σ → Prop
  | cut {s : σ} : Rounds signal interval 0 s [] s
  | looked {n : Nat} {s s' : σ} (hlook : signal.isGiven s = (true, s')) :
    Rounds signal interval (n + 1) s [.looked true] s'
  | waited {n : Nat} {s s₁ s₂ s' : σ} {fault : Option Fault} (hlook : signal.isGiven s = (false, s₁))
    (hrun : signal.perform s₁ = (fault, s₂)) (hwait : signal.wait interval s₂ = (true, s')) :
    Rounds signal interval (n + 1) s [.looked false, .ran fault, .waited interval true] s'
  | again {n : Nat} {s s₁ s₂ s₃ s' : σ} {fault : Option Fault} {rest : List Event}
    (hlook : signal.isGiven s = (false, s₁)) (hrun : signal.perform s₁ = (fault, s₂))
    (hwait : signal.wait interval s₂ = (false, s₃)) (hrest : Rounds signal interval n s₃ rest s') :
    Rounds signal interval (n + 1) s (.looked false :: .ran fault :: .waited interval false :: rest) s'

/-- The loop of a task: rounds, or a first delay and rounds unless the signal is given meanwhile. -/
inductive Course (signal : Signal σ) (interval delay : Number) (n : Nat) (s : σ) : List Event → σ → Prop
  | now {trace : List Event} {s' : σ} (hdelay : delay.isZero = true) (h : Rounds signal interval n s trace s') :
    Course signal interval delay n s trace s'
  | never {s' : σ} (hdelay : delay.isZero = false) (hwait : signal.wait delay s = (true, s')) :
    Course signal interval delay n s [.waited delay true] s'
  | later {s₁ s' : σ} {rest : List Event} (hdelay : delay.isZero = false) (hwait : signal.wait delay s = (false, s₁))
    (hrest : Rounds signal interval n s₁ rest s') :
    Course signal interval delay n s (.waited delay false :: rest) s'

theorem rounds_made (signal : Signal σ) (interval : Number) (n : Nat) (s : σ) :
    Rounds signal interval n s (rounds signal interval n s).1 (rounds signal interval n s).2 := by
  induction n generalizing s with
  | zero => exact .cut
  | succ n ih =>
    rcases hlook : signal.isGiven s with ⟨given, s₁⟩
    cases given with
    | true =>
      simp only [rounds, hlook]
      exact .looked hlook
    | false =>
      rcases hrun : signal.perform s₁ with ⟨fault, s₂⟩
      rcases hwait : signal.wait interval s₂ with ⟨ended, s₃⟩
      cases ended with
      | true =>
        simp only [rounds, hlook, hrun, hwait]
        exact .waited hlook hrun hwait
      | false =>
        simp only [rounds, hlook, hrun, hwait]
        exact .again hlook hrun hwait (ih s₃)

theorem Rounds.eq (h : Rounds signal interval n s trace s') : rounds signal interval n s = (trace, s') := by
  induction h with
  | cut => rfl
  | looked hlook => simp [rounds, hlook]
  | waited hlook hrun hwait => simp [rounds, hlook, hrun, hwait]
  | again hlook hrun hwait hrest ih => simp [rounds, hlook, hrun, hwait, ih]

theorem run_course (signal : Signal σ) (interval delay : Number) (n : Nat) (s : σ) :
    Course signal interval delay n s (run signal interval delay n s).1 (run signal interval delay n s).2 := by
  cases hdelay : delay.isZero with
  | true =>
    simp only [run, hdelay, if_true]
    exact .now hdelay (rounds_made signal interval n s)
  | false =>
    rcases hwait : signal.wait delay s with ⟨given, s₁⟩
    cases given with
    | true =>
      simp only [run, hdelay, hwait]
      exact .never hdelay hwait
    | false =>
      simp only [run, hdelay, hwait]
      exact .later hdelay hwait (rounds_made signal interval n s₁)

theorem Course.eq (h : Course signal interval delay n s trace s') : run signal interval delay n s = (trace, s') := by
  cases h with
  | now hdelay h => simp [run, hdelay, h.eq]
  | never hdelay hwait => simp [run, hdelay, hwait]
  | later hdelay hwait hrest => simp [run, hdelay, hwait, hrest.eq]

/-! ## What was asked -/

/-- The signal and the task gave these answers, one after another. -/
inductive Plays (signal : Signal σ) : σ → List Event → σ → Prop
  | done {s : σ} : Plays signal s [] s
  | waited {s s₁ s' : σ} {seconds : Number} {given : Bool} {rest : List Event}
    (h : signal.wait seconds s = (given, s₁)) (hrest : Plays signal s₁ rest s') :
    Plays signal s (.waited seconds given :: rest) s'
  | looked {s s₁ s' : σ} {given : Bool} {rest : List Event} (h : signal.isGiven s = (given, s₁))
    (hrest : Plays signal s₁ rest s') : Plays signal s (.looked given :: rest) s'
  | ran {s s₁ s' : σ} {fault : Option Fault} {rest : List Event} (h : signal.perform s = (fault, s₁))
    (hrest : Plays signal s₁ rest s') : Plays signal s (.ran fault :: rest) s'

theorem Rounds.plays (h : Rounds signal interval n s trace s') : Plays signal s trace s' := by
  induction h with
  | cut => exact .done
  | looked hlook => exact .looked hlook .done
  | waited hlook hrun hwait => exact .looked hlook (.ran hrun (.waited hwait .done))
  | again hlook hrun hwait hrest ih => exact .looked hlook (.ran hrun (.waited hwait ih))

theorem Course.plays (h : Course signal interval delay n s trace s') : Plays signal s trace s' := by
  cases h with
  | now hdelay h => exact h.plays
  | never hdelay hwait => exact .waited hwait .done
  | later hdelay hwait hrest => exact .waited hwait hrest.plays

/-! ## The order of events -/

/-- A trace that begins with an event of a kind, in which events follow each other as they may, and which does not
break off between a look at the signal and the wait after the run. -/
structure Orderly (interval : Number) (first : Bool → Event) (trace : List Event) : Prop where
  starts : ∀ e ∈ trace.head?, ∃ given, e = first given
  chain : trace.IsChain (Event.Follows interval)
  ends : ∀ e ∈ trace.getLast?, e = .looked true ∨ ∃ seconds given, e = .waited seconds given

theorem Orderly.cons {first : Bool → Event} {e : Event} (h : Orderly interval .looked trace)
    (he : ∃ given, e = first given) (hnext : ∀ given, Event.Follows interval e (.looked given))
    (hend : ∃ seconds given, e = .waited seconds given) : Orderly interval first (e :: trace) where
  starts := by
    rintro _ ⟨⟩
    exact he
  chain := by
    refine List.isChain_cons.mpr ⟨fun e' he' => ?_, h.chain⟩
    obtain ⟨given, rfl⟩ := h.starts e' he'
    exact hnext given
  ends := by
    intro e' he'
    cases trace with
    | nil =>
      cases he'
      exact Or.inr hend
    | cons e'' rest => exact h.ends e' (by rwa [List.getLast?_cons_cons] at he')

theorem Rounds.orderly (h : Rounds signal interval n s trace s') : Orderly interval .looked trace := by
  induction h with
  | cut => exact ⟨by simp, .nil, by simp⟩
  | looked hlook => exact ⟨by simp, .singleton _, by simp⟩
  | waited hlook hrun hwait =>
    exact ⟨by simp, .cons_cons .run (.cons_cons .wait (.singleton _)), by simp⟩
  | again hlook hrun hwait hrest ih =>
    have hwaited : Orderly interval (.waited interval) (.waited interval false :: _) :=
      ih.cons ⟨false, rfl⟩ (fun _ => .look) ⟨interval, false, rfl⟩
    refine ⟨by simp, .cons_cons .run (.cons_cons .wait hwaited.chain), fun e he => hwaited.ends e ?_⟩
    rwa [List.getLast?_cons_cons, List.getLast?_cons_cons] at he

def opening (delay : Number) (given : Bool) : Event := if delay.isZero then .looked given else .waited delay given

theorem Course.orderly (h : Course signal interval delay n s trace s') : Orderly interval (opening delay) trace := by
  cases h with
  | now hdelay h =>
    have hopening : opening delay = .looked := by
      funext given
      rw [opening, if_pos hdelay]
    exact hopening ▸ h.orderly
  | never hdelay hwait => exact ⟨by simp [opening, hdelay], .singleton _, by simp⟩
  | later hdelay hwait hrest =>
    exact hrest.orderly.cons ⟨false, by simp [opening, hdelay]⟩ (fun _ => .look) ⟨delay, false, rfl⟩

namespace Orderly

variable {first : Bool → Event} {front back : List Event}

theorem follows (h : Orderly interval first trace) {e e' : Event} (htrace : trace = front ++ e :: e' :: back) :
    Event.Follows interval e e' :=
  List.isChain_iff_forall_rel_of_append_cons_cons.mp h.chain htrace

/-- No event but a wait, or a look that found the signal given, is the last one. -/
theorem exists_next (h : Orderly interval first trace) {e : Event} (htrace : trace = front ++ e :: back)
    (hlook : e ≠ .looked true) (hwait : ∀ seconds given, e ≠ .waited seconds given) : ∃ e' rest, back = e' :: rest := by
  cases back with
  | cons e' rest => exact ⟨e', rest, rfl⟩
  | nil =>
    exfalso
    rcases h.ends e (by simp [htrace]) with hlast | ⟨seconds, given, hlast⟩
    · exact hlook hlast
    · exact hwait seconds given hlast

theorem after_look (h : Orderly interval first trace) (htrace : trace = front ++ .looked false :: back) :
    ∃ fault rest, back = .ran fault :: rest := by
  obtain ⟨e, rest, rfl⟩ := h.exists_next htrace (by simp) (by simp)
  cases h.follows htrace with
  | run => exact ⟨_, rest, rfl⟩

theorem after_run (h : Orderly interval first trace) {fault : Option Fault}
    (htrace : trace = front ++ .ran fault :: back) :
    ∃ given rest, back = .waited interval given :: rest ∧ ∀ e ∈ rest.head?, ∃ seen, e = .looked seen := by
  obtain ⟨e, rest, rfl⟩ := h.exists_next htrace (by simp) (by simp)
  cases h.follows htrace with
  | @wait _ given =>
    refine ⟨given, rest, rfl, ?_⟩
    intro e he
    obtain ⟨tail, rfl⟩ := List.head?_eq_some_iff.mp he
    have hshift : trace = (front ++ [.ran fault]) ++ .waited interval given :: e :: tail := by simp [htrace]
    cases h.follows hshift with
    | @look _ seen => exact ⟨seen, rfl⟩

theorem before_run (h : Orderly interval first trace) (hfirst : ∀ given fault, first given ≠ .ran fault)
    {fault : Option Fault} (htrace : trace = front ++ .ran fault :: back) :
    ∃ rest, front = rest ++ [.looked false] := by
  rcases List.eq_nil_or_concat' front with rfl | ⟨rest, e, rfl⟩
  · obtain ⟨given, hgiven⟩ := h.starts (.ran fault) (by simp [htrace])
    exact absurd hgiven.symm (hfirst given fault)
  · have hshift : trace = rest ++ e :: .ran fault :: back := by simp [htrace]
    cases h.follows hshift with
    | run => exact ⟨rest, rfl⟩

theorem before_wait (h : Orderly interval first trace) {seconds : Number} {given : Bool}
    (htrace : trace = front ++ .waited seconds given :: back) :
    (front = [] ∧ ∃ seen, .waited seconds given = first seen) ∨
      seconds = interval ∧ ∃ rest fault, front = rest ++ [.ran fault] := by
  rcases List.eq_nil_or_concat' front with rfl | ⟨rest, e, rfl⟩
  · exact Or.inl ⟨rfl, h.starts (.waited seconds given) (by simp [htrace])⟩
  · have hshift : trace = rest ++ e :: .waited seconds given :: back := by simp [htrace]
    cases h.follows hshift with
    | wait => exact Or.inr ⟨rfl, rest, _, rfl⟩

theorem ended (h : Orderly interval first trace) {e : Event} (htrace : trace = front ++ e :: back)
    (hgiven : e.answer? = some true) : back = [] := by
  cases back with
  | nil => rfl
  | cons e' rest => exact absurd hgiven (h.follows htrace).answer_ne

theorem spaced (h : Orderly interval first trace) {mid : List Event} {fault fault' : Option Fault}
    (htrace : trace = front ++ .ran fault :: (mid ++ .ran fault' :: back)) : .waited interval false ∈ mid := by
  obtain ⟨given, rest, hback, -⟩ := h.after_run htrace
  cases mid with
  | nil => simp at hback
  | cons e mid =>
    obtain ⟨rfl, -⟩ := List.cons_eq_cons.mp hback
    have hshift : trace = (front ++ [.ran fault]) ++ .waited interval given :: (mid ++ .ran fault' :: back) := by
      simp [htrace]
    -- a wait in which the signal was given would be the end of the trace
    cases given with
    | false => exact List.mem_cons_self
    | true => simpa using h.ended hshift rfl

end Orderly

/-! ## How far a loop goes -/

theorem Rounds.runs_eq (h : Rounds signal interval n s trace s') (hopen : ¬ Returned trace) : runs trace = n := by
  induction h with
  | cut => rfl
  | looked hlook => simp [Returned] at hopen
  | waited hlook hrun hwait => simp [Returned] at hopen
  | again hlook hrun hwait hrest ih =>
    have hrounds := ih (by simpa [Returned] using hopen)
    rw [runs_looked, runs_ran, runs_waited, hrounds]

theorem Course.runs_eq (h : Course signal interval delay n s trace s') (hopen : ¬ Returned trace) : runs trace = n := by
  cases h with
  | now hdelay h => exact h.runs_eq hopen
  | never hdelay hwait => simp [Returned] at hopen
  | later hdelay hwait hrest =>
    rw [runs_waited]
    exact hrest.runs_eq (by simpa [Returned] using hopen)

/-- More rounds go on where fewer left off, and a loop that returned makes no more. -/
theorem Rounds.prolong (h : Rounds signal interval n s trace s') (m : Nat) :
    ∃ more s'', Rounds signal interval (n + m) s (trace ++ more) s'' ∧ (Returned trace → more = [] ∧ s'' = s') := by
  induction h with
  -- only a loop that was cut off goes on, and that is no loop that returned
  | @cut s =>
    refine ⟨(rounds signal interval m s).1, (rounds signal interval m s).2, ?_, by simp [Returned]⟩
    rw [Nat.zero_add, List.nil_append]
    exact rounds_made signal interval m s
  | @looked n s s' hlook =>
    refine ⟨[], s', ?_, fun _ => ⟨rfl, rfl⟩⟩
    rw [Nat.add_right_comm]
    exact .looked hlook
  | @waited n s s₁ s₂ s' fault hlook hrun hwait =>
    refine ⟨[], s', ?_, fun _ => ⟨rfl, rfl⟩⟩
    rw [Nat.add_right_comm]
    exact .waited hlook hrun hwait
  | again hlook hrun hwait hrest ih =>
    obtain ⟨more, s'', hmore, hreturned⟩ := ih
    refine ⟨more, s'', ?_, ?_⟩
    · rw [Nat.add_right_comm]
      exact .again hlook hrun hwait hmore
    · exact fun h => hreturned (by simpa [Returned] using h)

theorem Course.prolong (h : Course signal interval delay n s trace s') (m : Nat) :
    ∃ more s'', Course signal interval delay (n + m) s (trace ++ more) s'' ∧
      (Returned trace → more = [] ∧ s'' = s') := by
  cases h with
  | now hdelay h =>
    obtain ⟨more, s'', hmore, hreturned⟩ := h.prolong m
    exact ⟨more, s'', .now hdelay hmore, hreturned⟩
  | never hdelay hwait => exact ⟨[], s', .never hdelay hwait, fun _ => ⟨rfl, rfl⟩⟩
  | later hdelay hwait hrest =>
    obtain ⟨more, s'', hmore, hreturned⟩ := hrest.prolong m
    exact ⟨more, s'', .later hdelay hwait hmore, fun h => hreturned (by simpa [Returned] using h)⟩

/-! ## What a trace depends on -/

theorem Rounds.outline_eq (h : Rounds signal interval n s trace s') {m : Nat} {trace' : List Event}
    (h' : Rounds other interval m t trace' t') (hsame : answers trace = answers trace') :
    outline trace = outline trace' := by
  -- the answers decide which way a round ends, so both loops end theirs the same way
  induction h generalizing m t trace' with
  | cut => cases h' <;> simp at hsame ⊢
  | looked hlook => cases h' <;> simp at hsame ⊢
  | waited hlook hrun hwait => cases h' <;> simp at hsame ⊢
  | again hlook hrun hwait hrest ih =>
    cases h' with
    | cut => simp at hsame
    | looked hlook' => simp at hsame
    | waited hlook' hrun' hwait' => simp at hsame
    | again hlook' hrun' hwait' hrest' =>
      have hlater := ih hrest' (by simpa using hsame)
      simp [hlater]

theorem Course.outline_eq (h : Course signal interval delay n s trace s') {m : Nat} {trace' : List Event}
    (h' : Course other interval delay m t trace' t') (hsame : answers trace = answers trace') :
    outline trace = outline trace' := by
  cases h with
  | now hdelay h =>
    cases h' with
    | now hdelay' h' => exact h.outline_eq h' hsame
    | never hdelay' hwait' => simp [hdelay] at hdelay'
    | later hdelay' hwait' hrest' => simp [hdelay] at hdelay'
  | never hdelay hwait =>
    cases h' with
    | now hdelay' h' => simp [hdelay] at hdelay'
    | never hdelay' hwait' => rfl
    | later hdelay' hwait' hrest' => simp at hsame
  | later hdelay hwait hrest =>
    cases h' with
    | now hdelay' h' => simp [hdelay] at hdelay'
    | never hdelay' hwait' => simp at hsame
    | later hdelay' hwait' hrest' =>
      have hlater := hrest.outline_eq hrest' (by simpa using hsame)
      simp [hlater]

/-- Two signals answer alike, and go on to do so whatever comes of the runs. -/
structure Alike (signal : Signal σ) (other : Signal τ) (R : σ → τ → Prop) : Prop where
  look : ∀ {s t}, R s t → (signal.isGiven s).1 = (other.isGiven t).1 ∧ R (signal.isGiven s).2 (other.isGiven t).2
  wait : ∀ {s t} (seconds), R s t →
    (signal.wait seconds s).1 = (other.wait seconds t).1 ∧ R (signal.wait seconds s).2 (other.wait seconds t).2
  run : ∀ {s t}, R s t → R (signal.perform s).2 (other.perform t).2

variable {R : σ → τ → Prop}

theorem Alike.looked (h : Alike signal other R) (hR : R s t) {given : Bool} (hlook : signal.isGiven s = (given, s')) :
    ∃ t', other.isGiven t = (given, t') ∧ R s' t' := by
  have hboth := h.look hR
  rw [hlook] at hboth
  exact ⟨(other.isGiven t).2, Prod.ext hboth.1.symm rfl, hboth.2⟩

theorem Alike.waited (h : Alike signal other R) (hR : R s t) {seconds : Number} {given : Bool}
    (hwait : signal.wait seconds s = (given, s')) : ∃ t', other.wait seconds t = (given, t') ∧ R s' t' := by
  have hboth := h.wait seconds hR
  rw [hwait] at hboth
  exact ⟨(other.wait seconds t).2, Prod.ext hboth.1.symm rfl, hboth.2⟩

theorem Alike.ran (h : Alike signal other R) (hR : R s t) {fault : Option Fault}
    (hrun : signal.perform s = (fault, s')) : ∃ fault' t', other.perform t = (fault', t') ∧ R s' t' := by
  have hboth := h.run hR
  rw [hrun] at hboth
  exact ⟨(other.perform t).1, (other.perform t).2, rfl, hboth⟩

theorem Rounds.alike (h : Rounds signal interval n s trace s') (halike : Alike signal other R) (hR : R s t) :
    ∃ trace' t', Rounds other interval n t trace' t' ∧ answers trace' = answers trace ∧ R s' t' := by
  induction h generalizing t with
  | cut => exact ⟨[], t, .cut, rfl, hR⟩
  | looked hlook =>
    obtain ⟨t', hlook', hR'⟩ := halike.looked hR hlook
    exact ⟨_, t', .looked hlook', rfl, hR'⟩
  | waited hlook hrun hwait =>
    obtain ⟨t₁, hlook', hR₁⟩ := halike.looked hR hlook
    obtain ⟨fault', t₂, hrun', hR₂⟩ := halike.ran hR₁ hrun
    obtain ⟨t', hwait', hR'⟩ := halike.waited hR₂ hwait
    exact ⟨_, t', .waited hlook' hrun' hwait', rfl, hR'⟩
  | again hlook hrun hwait hrest ih =>
    obtain ⟨t₁, hlook', hR₁⟩ := halike.looked hR hlook
    obtain ⟨fault', t₂, hrun', hR₂⟩ := halike.ran hR₁ hrun
    obtain ⟨t₃, hwait', hR₃⟩ := halike.waited hR₂ hwait
    obtain ⟨rest', t', hrest', hsame, hR'⟩ := ih hR₃
    exact ⟨_, t', .again hlook' hrun' hwait' hrest', by simp [hsame], hR'⟩

theorem Course.alike (h : Course signal interval delay n s trace s') (halike : Alike signal other R) (hR : R s t) :
    ∃ trace' t', Course other interval delay n t trace' t' ∧ answers trace' = answers trace ∧ R s' t' := by
  cases h with
  | now hdelay h =>
    obtain ⟨trace', t', h', hsame, hR'⟩ := h.alike halike hR
    exact ⟨trace', t', .now hdelay h', hsame, hR'⟩
  | never hdelay hwait =>
    obtain ⟨t', hwait', hR'⟩ := halike.waited hR hwait
    exact ⟨_, t', .never hdelay hwait', rfl, hR'⟩
  | later hdelay hwait hrest =>
    obtain ⟨t₁, hwait', hR₁⟩ := halike.waited hR hwait
    obtain ⟨rest', t', hrest', hsame, hR'⟩ := hrest.alike halike hR₁
    exact ⟨_, t', .later hdelay hwait' hrest', by simp [hsame], hR'⟩

/-- A signal that answers from a script, and a task whose runs come to what another script says. -/
def scripted (script : Nat → Bool) (outcomes : Nat → Option Fault) : Signal (Nat × Nat) where
  isGiven s := (script s.1, s.1 + 1, s.2)
  wait _ s := (script s.1, s.1 + 1, s.2)
  perform s := (outcomes s.2, s.1, s.2 + 1)

theorem alike_scripted (script : Nat → Bool) (outcomes outcomes' : Nat → Option Fault) :
    Alike (scripted script outcomes) (scripted script outcomes') (fun s t => s.1 = t.1) where
  look h := ⟨congrArg script h, congrArg Nat.succ h⟩
  wait _ h := ⟨congrArg script h, congrArg Nat.succ h⟩
  run h := h

theorem outline_alike (halike : Alike signal other R) (hR : R s t) (interval delay : Number) (limit : Nat) :
    outline (run signal interval delay limit s).1 = outline (run other interval delay limit t).1 := by
  have hcourse := run_course signal interval delay limit s
  obtain ⟨trace', t', hother, hsame, -⟩ := hcourse.alike halike hR
  rw [hother.eq]
  exact hcourse.outline_eq hother hsame.symm

/-! ## The loop -/

/-- What a loop does that is followed for some rounds. -/
structure Obeys (signal : Signal σ) (interval delay : Number) (limit : Nat) (s : σ) (trace : List Event) (s' : σ) :
    Prop where
  /-- Every event took place, with the answer that was noted. -/
  played : Plays signal s trace s'
  /-- A first delay is waited for if it is not zero. -/
  opened : ∀ e ∈ trace.head?, ∃ given, e = if delay.isZero then .looked given else .waited delay given
  /-- A run stands directly between a look at the signal that is not given and a wait, behind which the loop looks
  again. -/
  ran : ∀ front fault back, trace = front ++ .ran fault :: back →
    (∃ before, front = before ++ [.looked false]) ∧
      ∃ given after, back = .waited interval given :: after ∧ ∀ e ∈ after.head?, ∃ seen, e = .looked seen
  /-- The task is run whenever the signal was looked at and not given. -/
  looked : ∀ front back, trace = front ++ .looked false :: back → ∃ fault after, back = .ran fault :: after
  /-- There are no waits but the first delay and those behind a run. -/
  waited : ∀ front seconds given back, trace = front ++ .waited seconds given :: back →
    (front = [] ∧ delay.isZero = false ∧ seconds = delay) ∨
      seconds = interval ∧ ∃ before fault, front = before ++ [.ran fault]
  /-- Between two runs the interval was waited for. -/
  spaced : ∀ front fault mid fault' back, trace = front ++ .ran fault :: (mid ++ .ran fault' :: back) →
    .waited interval false ∈ mid
  /-- The first answer that the signal is given is the end. -/
  ended : ∀ front e back, trace = front ++ e :: back → e.answer? = some true → back = []
  /-- Without such an answer the loop makes all the rounds for which it is followed. -/
  unended : ¬ Returned trace → runs trace = limit

theorem Course.obeys {limit : Nat} (h : Course signal interval delay limit s trace s') :
    Obeys signal interval delay limit s trace s' where
  played := h.plays
  opened := h.orderly.starts
  ran := by
    intro front fault back htrace
    have hfirst : ∀ given fault, opening delay given ≠ .ran fault := by
      intro given fault
      unfold opening
      split_ifs <;> simp
    exact ⟨h.orderly.before_run hfirst htrace, h.orderly.after_run htrace⟩
  looked := by
    intro front back htrace
    exact h.orderly.after_look htrace
  waited := by
    intro front seconds given back htrace
    rcases h.orderly.before_wait htrace with ⟨hfront, seen, hfirst⟩ | hinner
    · unfold opening at hfirst
      split_ifs at hfirst with hdelay
      obtain ⟨rfl, -⟩ := Event.waited.inj hfirst
      exact Or.inl ⟨hfront, Bool.not_eq_true _ ▸ hdelay, rfl⟩
    · exact Or.inr hinner
  spaced := by
    intro front fault mid fault' back htrace
    exact h.orderly.spaced htrace
  ended := by
    intro front e back htrace hgiven
    exact h.orderly.ended htrace hgiven
  unended := h.runs_eq

theorem run_prolonged (signal : Signal σ) (interval delay : Number) (limit : Nat) (s : σ) (more : Nat) :
    (run signal interval delay limit s).1 <+: (run signal interval delay (limit + more) s).1 ∧
      (Returned (run signal interval delay limit s).1 →
        run signal interval delay (limit + more) s = run signal interval delay limit s) := by
  obtain ⟨rest, s'', hlong, hreturned⟩ := (run_course signal interval delay limit s).prolong more
  rw [hlong.eq]
  refine ⟨List.prefix_append _ rest, fun h => ?_⟩
  obtain ⟨rfl, rfl⟩ := hreturned h
  rw [List.append_nil]

/-- **A loop obeys only its signal.** Whatever the signal answers and whatever comes of the runs, the loop waits for a
first delay that is not zero, looks at the signal in front of every run, waits for the interval behind every run, and
returns with the first answer that the signal is given, and only then: followed for more rounds it goes on where it
left off. Loops that get the same answers do the same, and signals that answer alike make loops that do the same,
whatever comes of the runs; so under one script of answers no outcome of any run makes a difference. -/
theorem obeys_signal (signal : Signal σ) (interval delay : Number) (limit : Nat) (s : σ) :
    Obeys signal interval delay limit s (run signal interval delay limit s).1 (run signal interval delay limit s).2 ∧
    (∀ more, (run signal interval delay limit s).1 <+: (run signal interval delay (limit + more) s).1 ∧
      (Returned (run signal interval delay limit s).1 →
        run signal interval delay (limit + more) s = run signal interval delay limit s)) ∧
    (∀ {τ : Type} (other : Signal τ) (t : τ) (limit' : Nat),
      answers (run signal interval delay limit s).1 = answers (run other interval delay limit' t).1 →
        outline (run signal interval delay limit s).1 = outline (run other interval delay limit' t).1) ∧
    (∀ {τ : Type} (other : Signal τ) (R : σ → τ → Prop) (t : τ), Alike signal other R → R s t →
      outline (run signal interval delay limit s).1 = outline (run other interval delay limit t).1) ∧
    ∀ script outcomes outcomes',
      outline (run (scripted script outcomes) interval delay limit (0, 0)).1 =
        outline (run (scripted script outcomes') interval delay limit (0, 0)).1 := by
  have hcourse := run_course signal interval delay limit s
  refine ⟨hcourse.obeys, run_prolonged signal interval delay limit s, ?answers, ?alike, ?scripts⟩
  case answers =>
    intro τ other t limit' hsame
    exact hcourse.outline_eq (run_course other interval delay limit' t) hsame
  case alike =>
    intro τ other R t halike hR
    exact outline_alike halike hR interval delay limit
  case scripts =>
    intro script outcomes outcomes'
    exact outline_alike (alike_scripted script outcomes outcomes') rfl interval delay limit

/-- A task that always fails is run as often as one that never does. -/
theorem obeys_signal_failing :
    let calm := scripted (fun i => i == 4) fun _ => none
    let failing := scripted (fun i => i == 4) fun _ => some .outOfRange
    Alike calm failing (fun s t => s.1 = t.1) ∧
      outline (run calm 10 3 7 (0, 0)).1 = outline (run failing 10 3 7 (0, 0)).1 ∧
      (run failing 10 3 7 (0, 0)).1 =
        [.waited 3 false, .looked false, .ran (some .outOfRange), .waited 10 false, .looked false,
          .ran (some .outOfRange), .waited 10 true] := by
  intro calm failing
  have halike : Alike calm failing (fun s t => s.1 = t.1) := alike_scripted _ _ _
  exact ⟨halike, (obeys_signal calm 10 3 7 (0, 0)).2.2.2.1 failing _ (0, 0) halike rfl, rfl⟩

end Loop

end SessionKeeper

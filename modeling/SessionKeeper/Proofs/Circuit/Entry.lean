import SessionKeeper.Proofs.Action

/-!
# The entry of a key

What each step of the circuits does to the entry of its key, and that it leaves all other entries alone.

* `Circuits.find_write`, `Circuits.find_erase`, `Circuits.find_prune` : looking up after a change.
* `Circuits.Distinct` : no key has two entries; every step keeps that.
* `Circuit.rejects`, `Circuit.asked` : the answer of one circuit to a question, and the circuit after it.
* `Guard.isOpen_fst`, `Guard.find_isOpen`, `Guard.find_fail`, `Guard.find_succeed` : the steps at the
  time of the clock.
-/

namespace SessionKeeper

namespace Circuits

variable {τ : Type} {cs : Circuits τ} {key other : String} {c : Circuit τ}

/-! ## Looking up -/

theorem find_nil (key : String) : find ([] : Circuits τ) key = none := rfl

theorem find_cons (e : String × Circuit τ) (cs : Circuits τ) (key : String) :
    find (e :: cs) key = if e.1 = key then some e.2 else find cs key := by
  unfold find
  rw [List.find?_cons]
  by_cases h : e.1 = key
  · simp [h]
  · rw [if_neg h, beq_false_of_ne h]

theorem mem_of_find (h : cs.find key = some c) : (key, c) ∈ cs := by
  induction cs with
  | nil => simp [find_nil] at h
  | cons e cs ih =>
    rw [find_cons] at h
    split_ifs at h with hk
    · obtain rfl : e.2 = c := by simpa using h
      rw [← hk]
      exact List.mem_cons_self
    · exact List.mem_cons_of_mem _ (ih h)

theorem find_eq_none_iff : cs.find key = none ↔ ∀ e ∈ cs, e.1 ≠ key := by
  unfold find
  rw [Option.map_eq_none_iff, List.find?_eq_none]
  exact forall₂_congr fun e _ => by simp

theorem any_key_iff : cs.any (·.1 == key) = true ↔ cs.find key ≠ none := by
  rw [Ne, find_eq_none_iff, List.any_eq_true]
  push Not
  exact exists_congr fun e => and_congr_right fun _ => beq_iff_eq

theorem find_erase (cs : Circuits τ) (key other : String) :
    (cs.erase key).find other = if other = key then none else cs.find other := by
  induction cs with
  | nil => simp [erase, find_nil]
  | cons e cs ih =>
    unfold erase at ih ⊢
    rw [List.filter_cons]
    by_cases he : e.1 = key
    · rw [if_neg (by simp [he]), ih]
      by_cases ho : other = key
      · rw [if_pos ho, if_pos ho]
      · rw [if_neg ho, if_neg ho, find_cons, if_neg (by rw [he]; exact Ne.symm ho)]
    · rw [if_pos (by simp [he]), find_cons, find_cons, ih]
      by_cases ho : other = key
      · subst ho
        simp [he]
      · rw [if_neg ho, if_neg ho]

theorem find_replace (cs : Circuits τ) (key other : String) (c : Circuit τ) :
    find (cs.map fun e => if e.1 == key then (key, c) else e) other =
      if other = key then (cs.find key).map fun _ => c else cs.find other := by
  induction cs with
  | nil => simp [find_nil]
  | cons e cs ih =>
    rw [List.map_cons, find_cons, find_cons, find_cons, ih]
    by_cases he : e.1 = key
    · by_cases ho : other = key
      · simp [he, ho]
      · simp [he, ho, Ne.symm ho]
    · by_cases ho : other = key
      · subst ho
        simp [he]
      · simp [he, ho]

theorem find_append (cs ds : Circuits τ) (key : String) :
    find (cs ++ ds) key = (cs.find key).or (find ds key) := by
  induction cs with
  | nil => simp [find_nil]
  | cons e cs ih =>
    rw [List.cons_append, find_cons, find_cons, ih]
    split_ifs
    · rfl
    · rfl

theorem find_write (cs : Circuits τ) (key other : String) (c : Circuit τ) :
    (cs.write key c).find other = if other = key then some c else cs.find other := by
  unfold write
  by_cases hany : cs.any (·.1 == key)
  · rw [if_pos hany, find_replace]
    obtain ⟨d, hd⟩ := Option.ne_none_iff_exists'.mp (any_key_iff.mp hany)
    rw [hd, Option.map_some]
  · rw [if_neg hany, find_append, find_cons, find_nil]
    have hnone : cs.find key = none := by
      by_contra h
      exact hany (any_key_iff.mpr h)
    by_cases ho : other = key
    · subst ho
      simp [hnone]
    · simp [ho, Ne.symm ho]

/-! ## One entry for each key -/

/-- No key has two entries. -/
def Distinct (cs : Circuits τ) : Prop := (cs.map (·.1)).Nodup

theorem distinct_nil : Distinct ([] : Circuits τ) := List.nodup_nil

theorem Distinct.filter (h : Distinct cs) (p : String × Circuit τ → Bool) :
    Distinct (cs.filter p : Circuits τ) :=
  List.Nodup.sublist (List.filter_sublist.map _) h

theorem Distinct.write (h : Distinct cs) (key : String) (c : Circuit τ) : Distinct (cs.write key c) := by
  unfold Circuits.write
  by_cases hany : cs.any (·.1 == key)
  · rw [if_pos hany]
    have hkeys : (cs.map fun e => if e.1 == key then (key, c) else e).map (·.1) = cs.map (·.1) := by
      rw [List.map_map]
      refine List.map_congr_left fun e _ => ?_
      by_cases he : e.1 = key
      · simp [he]
      · simp [he]
    unfold Distinct
    rw [hkeys]
    exact h
  · rw [if_neg hany]
    have hfresh : ∀ e ∈ cs, e.1 ≠ key := fun e he hk =>
      hany (List.any_eq_true.mpr ⟨e, he, beq_iff_eq.mpr hk⟩)
    unfold Distinct at h ⊢
    rw [List.map_append, List.nodup_append]
    refine ⟨h, by simp, fun a ha b hb => ?_⟩
    obtain ⟨e, he, rfl⟩ := List.mem_map.mp ha
    obtain rfl : b = key := by simpa using hb
    exact hfresh e he

theorem find_filter (h : Distinct cs) (p : String × Circuit τ → Bool) (key : String) :
    find (cs.filter p) key = (cs.find key).filter fun c => p (key, c) := by
  induction cs with
  | nil => rfl
  | cons e cs ih =>
    obtain ⟨hfresh, hrest⟩ := List.nodup_cons.mp h
    rw [List.filter_cons, find_cons]
    by_cases he : e.1 = key
    · have hnone : find (cs.filter p) key = none := by
        rw [find_eq_none_iff]
        intro d hd hkey
        exact hfresh (List.mem_map.mpr ⟨d, (List.mem_filter.mp hd).1, hkey.trans he.symm⟩)
      obtain ⟨k, c⟩ := e
      obtain rfl : k = key := he
      by_cases hp : p (k, c)
      · simp [hp, find_cons, Option.filter_some]
      · simp [hp, hnone, Option.filter_some]
    · rw [if_neg he, ← ih hrest]
      split_ifs
      · rw [find_cons, if_neg he]
      · rfl

variable [Timeline τ] {rule : CircuitRule τ} {now : τ}

theorem find_prune (h : Distinct cs) (rule : CircuitRule τ) (now : τ) (key : String) :
    (cs.prune rule now).find key =
      (cs.find key).filter fun c => !Timeline.outdated rule.resetTimeout c.lastFailure now :=
  find_filter h _ key

end Circuits

/-! ## One circuit -/

namespace Circuit

variable {τ : Type} [Timeline τ]

/-- Whether a circuit rejects a call at a point in time. -/
def rejects (rule : CircuitRule τ) (now : τ) (c : Circuit τ) : Bool :=
  match c.phase with
  | .closed => false
  | .halfOpen => true
  | .opened => !Timeline.elapsed rule.resetTimeout c.lastFailure now

/-- A circuit after it was asked at a point in time. -/
def asked (rule : CircuitRule τ) (now : τ) (c : Circuit τ) : Circuit τ :=
  if c.phase = .opened ∧ c.rejects rule now = false then { c with phase := .halfOpen } else c

@[simp] theorem asked_failures (rule : CircuitRule τ) (now : τ) (c : Circuit τ) :
    (c.asked rule now).failures = c.failures := by
  unfold asked
  split_ifs <;> rfl

@[simp] theorem asked_lastFailure (rule : CircuitRule τ) (now : τ) (c : Circuit τ) :
    (c.asked rule now).lastFailure = c.lastFailure := by
  unfold asked
  split_ifs <;> rfl

end Circuit

namespace Circuits

variable {τ : Type} [Timeline τ]

theorem ask_fst (rule : CircuitRule τ) (key : String) (now : τ) (cs : Circuits τ) :
    (cs.ask rule key now).1 = (cs.find key).any (·.rejects rule now) := by
  unfold ask
  cases hf : cs.find key with
  | none => rfl
  | some c =>
    cases hp : c.phase with
    | closed => simp [hp, Circuit.rejects]
    | halfOpen => simp [hp, Circuit.rejects]
    | opened =>
      simp only [hp, Option.any_some, Circuit.rejects]
      split_ifs with he
      · simp [he]
      · simp [he]

theorem ask_snd (rule : CircuitRule τ) (key : String) (now : τ) {cs : Circuits τ} {c : Circuit τ}
    (hf : cs.find key = some c) :
    (cs.ask rule key now).2 =
      if c.phase = .opened ∧ c.rejects rule now = false then cs.write key { c with phase := .halfOpen }
      else cs := by
  unfold ask
  cases hp : c.phase with
  | closed => simp [hf, hp]
  | halfOpen => simp [hf, hp]
  | opened =>
    simp only [hf, hp, Circuit.rejects, true_and, Bool.not_eq_false']
    split_ifs <;> rfl

theorem find_ask (rule : CircuitRule τ) (key other : String) (now : τ) (cs : Circuits τ) :
    (cs.ask rule key now).2.find other =
      if other = key then (cs.find key).map (·.asked rule now) else cs.find other := by
  cases hf : cs.find key with
  | none =>
    have hsame : (cs.ask rule key now).2 = cs := by simp [ask, hf]
    rw [hsame]
    split_ifs with ho
    · rw [ho, hf, Option.map_none]
    · rfl
  | some c =>
    rw [ask_snd rule key now hf, Option.map_some, Circuit.asked]
    split_ifs with hc ho ho
    · rw [find_write, if_pos ho]
    · rw [find_write, if_neg ho]
    · rw [ho, hf]
    · rfl

theorem Distinct.ask {cs : Circuits τ} (h : Distinct cs) (rule : CircuitRule τ) (key : String) (now : τ) :
    Distinct (cs.ask rule key now).2 := by
  unfold Circuits.ask
  split
  · exact h
  · split
    · exact h
    · exact h
    · split
      · exact h.write key _
      · exact h

end Circuits

/-! ## Counts of failures -/

def Circuits.failuresOf {τ : Type} (cs : Circuits τ) (key : String) : Nat := (cs.find key).elim 0 (·.failures)

/-! ## The steps at the time of the clock -/

/-- What the clock says next. -/
def World.time {σ τ : Type} [Surroundings σ τ] (w : World σ τ) : τ := (Surroundings.now w.outside).1

namespace Guard

variable {σ τ : Type}

@[simp] theorem circuits_succeed (key : String) (w : World σ τ) :
    ((succeed key : Effect σ τ Unit).on w).2.circuits = w.circuits.succeed key := rfl

@[simp] theorem journal_succeed (key : String) (w : World σ τ) :
    ((succeed key : Effect σ τ Unit).on w).2.journal = .succeeded key :: w.journal := rfl

theorem find_succeed (key other : String) (w : World σ τ) :
    ((succeed key : Effect σ τ Unit).on w).2.circuits.find other =
      if other = key then none else w.circuits.find other := by
  rw [circuits_succeed, Circuits.succeed, Circuits.find_erase]

@[simp] theorem circuits_reset (w : World σ τ) :
    ((reset : Effect σ τ Unit).on w).2.circuits = [] := rfl

variable [Surroundings σ τ]

@[simp] theorem circuits_fail (g : Guard τ) (key : String) (w : World σ τ) :
    ((g.fail key).on w).2.circuits = w.circuits.fail g.rule key w.time := rfl

@[simp] theorem journal_fail (g : Guard τ) (key : String) (w : World σ τ) :
    ((g.fail key).on w).2.journal = .failed key w.time :: w.journal := rfl

theorem find_fail (g : Guard τ) (key other : String) (w : World σ τ) :
    ((g.fail key).on w).2.circuits.find other =
      if other = key then some (Circuits.worsened g.rule w.time (w.circuits.find key))
      else w.circuits.find other := by
  rw [circuits_fail, Circuits.fail, Circuits.find_write]

theorem failuresOf_fail (g : Guard τ) (key : String) (w : World σ τ) :
    ((g.fail key).on w).2.circuits.failuresOf key = w.circuits.failuresOf key + 1 := by
  unfold Circuits.failuresOf
  rw [find_fail, if_pos rfl]
  rfl

variable [Timeline τ]

/-- The question, as one step: only the clock, the circuits and the journal change. -/
theorem isOpen_on (g : Guard τ) (key : String) (w : World σ τ) :
    ∃ o, (g.isOpen key).on w = ((w.circuits.ask g.rule key w.time).1,
      { w with outside := o, circuits := (w.circuits.ask g.rule key w.time).2,
               journal := .asked key (w.circuits.ask g.rule key w.time).1 :: w.journal }) := by
  unfold isOpen
  simp only [Effect.on_bind, Effect.on_get]
  cases hf : w.circuits.find key with
  | none =>
    have hask : w.circuits.ask g.rule key w.time = (false, w.circuits) := by simp [Circuits.ask, hf]
    rw [hask]
    exact ⟨w.outside, by simp [Circuits.phaseOf, hf]⟩
  | some c =>
    cases hp : c.phase with
    | closed =>
      have hask : w.circuits.ask g.rule key w.time = (false, w.circuits) := by
        simp [Circuits.ask, hf, hp]
      rw [hask]
      exact ⟨w.outside, by simp [Circuits.phaseOf, hf, hp]⟩
    | halfOpen =>
      have hask : w.circuits.ask g.rule key w.time = (true, w.circuits) := by
        simp [Circuits.ask, hf, hp]
      rw [hask]
      exact ⟨w.outside, by simp [Circuits.phaseOf, hf, hp]⟩
    | opened =>
      refine ⟨(Surroundings.now w.outside).2, ?_⟩
      simp only [Circuits.phaseOf, hf, hp, Option.elim_some]
      rfl

theorem isOpen_fst (g : Guard τ) (key : String) (w : World σ τ) :
    ((g.isOpen key).on w).1 = (w.circuits.find key).any (·.rejects g.rule w.time) := by
  obtain ⟨o, ho⟩ := g.isOpen_on key w
  rw [ho, Circuits.ask_fst]

theorem circuits_isOpen (g : Guard τ) (key : String) (w : World σ τ) :
    ((g.isOpen key).on w).2.circuits = (w.circuits.ask g.rule key w.time).2 := by
  obtain ⟨o, ho⟩ := g.isOpen_on key w
  rw [ho]

theorem find_isOpen (g : Guard τ) (key other : String) (w : World σ τ) :
    ((g.isOpen key).on w).2.circuits.find other =
      if other = key then (w.circuits.find key).map (·.asked g.rule w.time)
      else w.circuits.find other := by
  rw [circuits_isOpen, Circuits.find_ask]

theorem failuresOf_isOpen (g : Guard τ) (key : String) (w : World σ τ) :
    ((g.isOpen key).on w).2.circuits.failuresOf key = w.circuits.failuresOf key := by
  unfold Circuits.failuresOf
  rw [find_isOpen, if_pos rfl]
  cases w.circuits.find key with
  | none => rfl
  | some c => exact Circuit.asked_failures g.rule w.time c

theorem journal_isOpen (g : Guard τ) (key : String) (w : World σ τ) :
    ((g.isOpen key).on w).2.journal = .asked key ((g.isOpen key).on w).1 :: w.journal := by
  obtain ⟨o, ho⟩ := g.isOpen_on key w
  rw [ho]

@[simp] theorem circuits_prune (g : Guard τ) (w : World σ τ) :
    (g.prune.on w).2.circuits = w.circuits.prune g.rule w.time := rfl

end Guard

end SessionKeeper

import Mathlib.Data.List.Forall2
import SessionKeeper.Proofs.Circuit.Entry
import SessionKeeper.Rehearsal

/-!
# Circuits are independent

All circuits stand in one table, and yet each is a machine of its own: what is answered about a key depends on what
was done under this key, on pruning and on resets, and on the clock at these points.

* `Guard.Operation`, `Guard.Answer` : what can be done with the circuits, and what comes back.
* `Guard.Occasion`, `Guard.answers`, `Guard.afterAll` : operations, each in the surroundings that it meets; the
  answers about a key, and the world after all of them.
* `Guard.Operation.entry`, `Guard.Operation.reply` : the machine of one key.
* `Guard.Alike` : two worlds that agree about a key; operations on other keys and equal operations keep it.
* `Guard.answers_independent` : two runs that differ only in what was done under other keys.
-/

namespace SessionKeeper

namespace Guard

/-! ## Operations -/

inductive Operation where
  | ask (key : String)
  | look (key : String)
  | succeed (key : String)
  | fail (key : String)
  | prune
  | reset

inductive Answer (τ : Type) where
  | rejected (isRejected : Bool)
  | state (circuit : Option (Circuit τ))
  | forgotten (count : Nat)
  | done

namespace Operation

def isAbout (key : String) : Operation → Bool
  | ask k => k == key
  | look k => k == key
  | succeed _ | fail _ | prune | reset => false

/-- Whether the operation asks for a call, or records an outcome, under another key. -/
def isElsewhere (key : String) : Operation → Bool
  | ask k => k != key
  | succeed k => k != key
  | fail k => k != key
  | look _ | prune | reset => false

variable {σ τ : Type} [Timeline τ]

def run [Surroundings σ τ] (g : Guard τ) : Operation → Effect σ τ (Answer τ)
  | ask key => do return .rejected (← g.isOpen key)
  | look key => do return .state ((← get).circuits.find key)
  | succeed key => do
    Guard.succeed key
    return .done
  | fail key => do
    g.fail key
    return .done
  | prune => do return .forgotten (← g.prune)
  | reset => do
    Guard.reset
    return .done

/-! ### The machine of one key -/

/-- What an operation at a point in time makes of the entry of a key. -/
def entry (rule : CircuitRule τ) (key : String) (now : τ) (c : Option (Circuit τ)) : Operation → Option (Circuit τ)
  | ask k => if key = k then c.map (·.asked rule now) else c
  | look _ => c
  | succeed k => if key = k then none else c
  | fail k => if key = k then some (Circuits.worsened rule now c) else c
  | prune => c.filter fun c => !Timeline.outdated rule.resetTimeout c.lastFailure now
  | reset => none

/-- What a question about a key is answered when the key has this entry. -/
def reply (rule : CircuitRule τ) (now : τ) (c : Option (Circuit τ)) : Operation → Answer τ
  | ask _ => .rejected (c.any (·.rejects rule now))
  | look _ => .state c
  | succeed _ | fail _ | prune | reset => .done

theorem entry_elsewhere {key : String} {o : Operation} (h : o.isElsewhere key = true) (rule : CircuitRule τ) (now : τ)
    (c : Option (Circuit τ)) : o.entry rule key now c = c := by
  cases o with
  | ask k => exact if_neg (bne_iff_ne.mp h).symm
  | succeed k => exact if_neg (bne_iff_ne.mp h).symm
  | fail k => exact if_neg (bne_iff_ne.mp h).symm
  | look k => cases h
  | prune => cases h
  | reset => cases h

theorem not_about_of_elsewhere {key : String} {o : Operation} (h : o.isElsewhere key = true) :
    o.isAbout key = false := by
  cases o with
  | ask k => exact beq_false_of_ne (bne_iff_ne.mp h)
  | look k => cases h
  | succeed k => rfl
  | fail k => rfl
  | prune => rfl
  | reset => rfl

end Operation

/-! ## Runs -/

/-- An operation, and the surroundings that it meets. -/
structure Occasion (σ : Type) where
  operation : Operation
  outside : σ

variable {σ τ : Type} [Surroundings σ τ]

namespace Occasion

def time (x : Occasion σ) : τ := (Surroundings.now x.outside).1

/-- The same operation, at the same time of the clock. -/
def Matches (x y : Occasion σ) : Prop := x.operation = y.operation ∧ x.time = y.time

end Occasion

variable [Timeline τ]

def Occasion.on (g : Guard τ) (x : Occasion σ) (w : World σ τ) : Answer τ × World σ τ :=
  (x.operation.run g).on { w with outside := x.outside }

def answers (g : Guard τ) (key : String) : List (Occasion σ) → World σ τ → List (Answer τ)
  | [], _ => []
  | x :: xs, w =>
    if x.operation.isAbout key then (x.on g w).1 :: answers g key xs (x.on g w).2
    else answers g key xs (x.on g w).2

def afterAll (g : Guard τ) : List (Occasion σ) → World σ τ → World σ τ
  | [], w => w
  | x :: xs, w => afterAll g xs (x.on g w).2

namespace Occasion

variable {g : Guard τ} {key : String} {w : World σ τ}

theorem distinct_on (h : w.circuits.Distinct) (x : Occasion σ) : (x.on g w).2.circuits.Distinct := by
  obtain ⟨o, outside⟩ := x
  cases o with
  | ask k =>
    have hcircuits := g.circuits_isOpen k { w with outside := outside }
    have hasked := h.ask g.rule k (World.time { w with outside := outside })
    rw [← hcircuits] at hasked
    exact hasked
  | look k => exact h
  | succeed k => exact h.filter _
  | fail k => exact h.write k _
  | prune => exact h.filter _
  | reset => exact Circuits.distinct_nil

/-- An operation runs the machine of each key. -/
theorem find_on (h : w.circuits.Distinct) (x : Occasion σ) :
    (x.on g w).2.circuits.find key = x.operation.entry g.rule key x.time (w.circuits.find key) := by
  obtain ⟨o, outside⟩ := x
  cases o with
  | ask k =>
    have hfind := g.find_isOpen k key { w with outside := outside }
    by_cases hk : key = k
    · subst hk
      exact hfind
    · rw [if_neg hk] at hfind
      exact hfind.trans (if_neg hk).symm
  | look k => rfl
  | succeed k => exact find_succeed k key { w with outside := outside }
  | fail k =>
    have hfind := g.find_fail k key { w with outside := outside }
    by_cases hk : key = k
    · subst hk
      exact hfind
    · rw [if_neg hk] at hfind
      exact hfind.trans (if_neg hk).symm
  | prune => exact Circuits.find_prune h g.rule (World.time { w with outside := outside }) key
  | reset => rfl

theorem fst_on {x : Occasion σ} (h : x.operation.isAbout key = true) (w : World σ τ) :
    (x.on g w).1 = x.operation.reply g.rule x.time (w.circuits.find key) := by
  obtain ⟨o, outside⟩ := x
  cases o with
  | ask k =>
    obtain rfl : k = key := beq_iff_eq.mp h
    exact congrArg Answer.rejected (g.isOpen_fst k { w with outside := outside })
  | look k =>
    obtain rfl : k = key := beq_iff_eq.mp h
    rfl
  | succeed k => cases h
  | fail k => cases h
  | prune => cases h
  | reset => cases h

end Occasion

/-! ## Two runs -/

/-- The two worlds agree about the key. -/
structure Alike (key : String) (w v : World σ τ) : Prop where
  left : w.circuits.Distinct
  right : v.circuits.Distinct
  same : w.circuits.find key = v.circuits.find key

namespace Alike

variable {g : Guard τ} {key : String} {w v : World σ τ} {x y : Occasion σ}

omit [Surroundings σ τ] [Timeline τ] in
theorem refl (key : String) (h : w.circuits.Distinct) : Alike key w w := ⟨h, h, rfl⟩

theorem elsewhere (h : Alike key w v) (hx : x.operation.isElsewhere key = true) : Alike key (x.on g w).2 v where
  left := x.distinct_on h.left
  right := h.right
  same := by rw [x.find_on h.left, Operation.entry_elsewhere hx, h.same]

theorem matched (h : Alike key w v) (hxy : x.Matches y) : Alike key (x.on g w).2 (y.on g v).2 where
  left := x.distinct_on h.left
  right := y.distinct_on h.right
  same := by
    obtain ⟨hoperation, htime⟩ := hxy
    rw [x.find_on h.left, y.find_on h.right, hoperation, htime, h.same]

theorem answer (h : Alike key w v) (hxy : x.Matches y) (habout : y.operation.isAbout key = true) :
    (x.on g w).1 = (y.on g v).1 := by
  obtain ⟨hoperation, htime⟩ := hxy
  have habout' : x.operation.isAbout key = true := by rw [hoperation, habout]
  rw [Occasion.fst_on habout', Occasion.fst_on habout, hoperation, htime, h.same]

end Alike

/-- **Circuits are independent.** Take any operations on any keys, and leave out every question, success and failure
of other keys; keep the rest, at the same times of the clock. Then all that is asked about the key is answered as
before, and in the end its entry is the same. -/
theorem answers_independent (g : Guard τ) (key : String) {xs ys : List (Occasion σ)} {w v : World σ τ}
    (halike : Alike key w v)
    (hkept : List.Forall₂ Occasion.Matches (xs.filter fun x => !x.operation.isElsewhere key) ys) :
    g.answers key xs w = g.answers key ys v ∧ Alike key (g.afterAll xs w) (g.afterAll ys v) := by
  -- what is left out moves the first world alone, what is kept moves both
  induction xs generalizing ys w v with
  | nil =>
    cases hkept
    exact ⟨rfl, halike⟩
  | cons x xs ih =>
    by_cases helsewhere : x.operation.isElsewhere key = true
    · rw [List.filter_cons_of_neg (by simp [helsewhere])] at hkept
      have habout : x.operation.isAbout key = false := Operation.not_about_of_elsewhere helsewhere
      obtain ⟨hanswers, hend⟩ := ih (halike.elsewhere (g := g) helsewhere) hkept
      refine ⟨?_, hend⟩
      rw [answers, habout, if_neg Bool.false_ne_true]
      exact hanswers
    · rw [List.filter_cons_of_pos (by simp [helsewhere])] at hkept
      cases hkept with
      | @cons _ y _ ys hxy hrest =>
        obtain ⟨hanswers, hend⟩ := ih (halike.matched (g := g) hxy) hrest
        refine ⟨?_, hend⟩
        rw [answers, answers, hxy.1, hanswers]
        cases habout : y.operation.isAbout key with
        | true => rw [if_pos rfl, if_pos rfl, halike.answer hxy habout]
        | false => rw [if_neg Bool.false_ne_true, if_neg Bool.false_ne_true]

end Guard

/-! ### A rehearsal -/

def Rehearsal.clocked (seconds : Int) : Rehearsal := { plain with clock := .integer seconds }

namespace Guard

def morning : World Rehearsal Number := ⟨.clocked 0, [], ⟨none, none⟩, []⟩

/-- What is done under the key "a", and to all keys. -/
def plainDay : List (Occasion Rehearsal) :=
  [⟨.fail "a", .clocked 0⟩, ⟨.fail "a", .clocked 3⟩, ⟨.look "a", .clocked 4⟩, ⟨.prune, .clocked 6⟩,
    ⟨.ask "a", .clocked 10⟩, ⟨.ask "a", .clocked 63⟩, ⟨.reset, .clocked 64⟩, ⟨.look "a", .clocked 65⟩]

/-- The same, while another key fails, is asked and recovers. -/
def busyDay : List (Occasion Rehearsal) :=
  [⟨.fail "b", .clocked 0⟩, ⟨.fail "a", .clocked 0⟩, ⟨.fail "b", .clocked 1⟩, ⟨.ask "b", .clocked 2⟩,
    ⟨.fail "a", .clocked 3⟩, ⟨.look "a", .clocked 4⟩, ⟨.succeed "b", .clocked 5⟩, ⟨.prune, .clocked 6⟩,
    ⟨.ask "a", .clocked 10⟩, ⟨.ask "b", .clocked 62⟩, ⟨.ask "a", .clocked 63⟩, ⟨.reset, .clocked 64⟩,
    ⟨.fail "b", .clocked 64⟩, ⟨.look "a", .clocked 65⟩]

/-- The circuit of "a" opens, rejects a call and lets a trial through, whatever the other key does. -/
theorem answers_independent_busy :
    let g : Guard Number := ⟨⟨2, .integer 60⟩, none⟩
    g.answers "a" busyDay morning = g.answers "a" plainDay morning ∧
      g.answers "a" plainDay morning =
        [.state (some ⟨2, .integer 3, .opened⟩), .rejected true, .rejected false, .state none] := by
  intro g
  have halike : Alike "a" morning morning := .refl "a" Circuits.distinct_nil
  have hkept : List.Forall₂ Occasion.Matches (busyDay.filter fun x => !x.operation.isElsewhere "a") plainDay := by
    have hfiltered : (busyDay.filter fun x => !x.operation.isElsewhere "a") = plainDay := rfl
    rw [hfiltered]
    exact List.forall₂_same.mpr fun _ _ => ⟨rfl, rfl⟩
  exact ⟨(answers_independent g "a" halike hkept).1, rfl⟩

end Guard

end SessionKeeper

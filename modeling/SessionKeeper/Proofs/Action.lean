import Mathlib.Tactic.Common
import SessionKeeper.Pass

/-!
# Running actions

What effects, actions and the work of a pass do to a world, one equation for each way to put them
together.

* `Effect.on`, `Act.on`, `Work.on` : the result in a world, and the world afterwards.
* `on_bind`, `on_attempt`, … : the equations; they are the only place where the layers of an action are
  opened.
* `Act.Returns`, `Act.Raises` : what an action comes to in a world, as it can be computed.
-/

namespace SessionKeeper

variable {σ τ α β : Type}

/-! ## Effects -/

namespace Effect

/-- The result of an effect in a world, and the world after it. -/
def on (e : Effect σ τ α) (w : World σ τ) : α × World σ τ := (StateT.run e w).run

@[simp] theorem on_pure (a : α) (w : World σ τ) : (pure a : Effect σ τ α).on w = (a, w) := rfl

@[simp] theorem on_bind (e : Effect σ τ α) (f : α → Effect σ τ β) (w : World σ τ) :
    (e >>= f).on w = (f (e.on w).1).on (e.on w).2 := rfl

@[simp] theorem on_map (f : α → β) (e : Effect σ τ α) (w : World σ τ) :
    (f <$> e).on w = (f (e.on w).1, (e.on w).2) := rfl

@[simp] theorem on_get (w : World σ τ) : (get : Effect σ τ (World σ τ)).on w = (w, w) := rfl

@[simp] theorem on_modify (f : World σ τ → World σ τ) (w : World σ τ) :
    (modify f : Effect σ τ PUnit).on w = (⟨⟩, f w) := rfl

@[simp] theorem on_modifyGet (f : World σ τ → α × World σ τ) (w : World σ τ) :
    (modifyGet f : Effect σ τ α).on w = f w := rfl

@[simp] theorem on_note (e : Event τ) (w : World σ τ) :
    (note e).on w = ((), { w with journal := e :: w.journal }) := rfl

@[simp] theorem on_outside (f : σ → α × σ) (w : World σ τ) :
    (outside f : Effect σ τ α).on w = ((f w.outside).1, { w with outside := (f w.outside).2 }) := rfl

end Effect

/-! ## Actions -/

namespace Act

/-- The result of an action in a world, or its failure, and the world after it. -/
def on (a : Act σ τ α) (w : World σ τ) : Except Fault α × World σ τ := a.outcome.on w

@[simp] theorem outcome_on (a : Act σ τ α) (w : World σ τ) : a.outcome.on w = a.on w := rfl

@[simp] theorem on_pure (a : α) (w : World σ τ) : (pure a : Act σ τ α).on w = (.ok a, w) := rfl

@[simp] theorem on_throw (e : Fault) (w : World σ τ) : (throw e : Act σ τ α).on w = (.error e, w) := rfl

/-- The rest of an action after its first part. -/
def next (f : α → Act σ τ β) (r : Except Fault α × World σ τ) : Except Fault β × World σ τ :=
  match r.1 with
  | .ok a => (f a).on r.2
  | .error e => (.error e, r.2)

@[simp] theorem next_ok (f : α → Act σ τ β) (a : α) (w : World σ τ) : next f (.ok a, w) = (f a).on w := rfl

@[simp] theorem next_error (f : α → Act σ τ β) (e : Fault) (w : World σ τ) :
    next f (.error e, w) = (.error e, w) := rfl

theorem next_of_ok (f : α → Act σ τ β) {a : α} {r : Except Fault α × World σ τ} (h : r.1 = .ok a) :
    next f r = (f a).on r.2 := by
  unfold next
  rw [h]

theorem on_bind (a : Act σ τ α) (f : α → Act σ τ β) (w : World σ τ) : (a >>= f).on w = next f (a.on w) := by
  show Effect.on (ExceptT.run a >>= ExceptT.bindCont f) w = _
  rw [Effect.on_bind]
  unfold next
  rcases h : a.on w with ⟨_ | _, w'⟩ <;> simp only [on, outcome] at h <;> rw [h] <;> rfl

theorem on_bind_ok {a : Act σ τ α} {f : α → Act σ τ β} {w v : World σ τ} {b : β}
    (h : (a >>= f).on w = (.ok b, v)) : ∃ x u, a.on w = (.ok x, u) ∧ (f x).on u = (.ok b, v) := by
  rw [on_bind] at h
  rcases hrun : a.on w with ⟨e | x, u⟩
  · rw [hrun] at h
    cases h
  · rw [hrun] at h
    exact ⟨x, u, rfl, h⟩

@[simp] theorem on_ofExcept (r : Except Fault α) (w : World σ τ) : (ofExcept r : Act σ τ α).on w = (r, w) :=
  rfl

theorem ofExcept_bind (r : Except Fault α) (f : α → Except Fault β) :
    (ofExcept r >>= fun a => ofExcept (f a) : Act σ τ β) = ofExcept (r >>= f) := by
  cases r <;> rfl

theorem on_bind_ofExcept (a : Act σ τ α) (f : α → Except Fault β) (w : World σ τ) :
    (a >>= fun x => ofExcept (f x)).on w = ((a.on w).1 >>= f, (a.on w).2) := by
  rw [on_bind]
  rcases a.on w with ⟨e | x, v⟩ <;> rfl

@[simp] theorem on_ofEffect (e : Effect σ τ α) (w : World σ τ) :
    (ofEffect e).on w = (.ok (e.on w).1, (e.on w).2) := rfl

@[simp] theorem on_attempt (a : Act σ τ α) (w : World σ τ) :
    a.attempt.on w = (.ok (a.on w).1, (a.on w).2) := rfl

theorem of_attempt {a : Act σ τ α} {w v : World σ τ} {outcome : Except Fault α}
    (h : a.attempt.on w = (.ok outcome, v)) : a.on w = (outcome, v) := by
  rw [on_attempt] at h
  have hout : (a.on w).1 = outcome := Except.ok.inj (congrArg Prod.fst h)
  have hworld : (a.on w).2 = v := congrArg Prod.snd h
  exact Prod.ext hout hworld

/-- The action returns in this world, and its result and the world after it have the property. -/
def Returns (a : Act σ τ α) (w : World σ τ) (p : α → World σ τ → Prop) : Prop :=
  match a.on w with
  | (.ok x, v) => p x v
  | (.error _, _) => False

instance (a : Act σ τ α) (w : World σ τ) (p : α → World σ τ → Prop) [∀ x v, Decidable (p x v)] :
    Decidable (a.Returns w p) :=
  match h : a.on w with
  | (.ok x, v) => decidable_of_iff (p x v) (by rw [Returns, h])
  | (.error _, _) => isFalse (by rw [Returns, h]; exact id)

theorem Returns.exists_on {a : Act σ τ α} {w : World σ τ} {p : α → World σ τ → Prop} (h : a.Returns w p) :
    ∃ x v, a.on w = (.ok x, v) ∧ p x v := by
  unfold Returns at h
  split at h
  · exact ⟨_, _, ‹_›, h⟩
  · cases h

/-- The action fails in this world, and its failure and the world after it have the property. -/
def Raises (a : Act σ τ α) (w : World σ τ) (p : Fault → World σ τ → Prop) : Prop :=
  match a.on w with
  | (.ok _, _) => False
  | (.error e, v) => p e v

instance (a : Act σ τ α) (w : World σ τ) (p : Fault → World σ τ → Prop) [∀ e v, Decidable (p e v)] :
    Decidable (a.Raises w p) :=
  match h : a.on w with
  | (.ok _, _) => isFalse (by rw [Raises, h]; exact id)
  | (.error e, v) => decidable_of_iff (p e v) (by rw [Raises, h])

theorem Raises.exists_on {a : Act σ τ α} {w : World σ τ} {p : Fault → World σ τ → Prop} (h : a.Raises w p) :
    ∃ e, (a.on w).1 = .error e ∧ p e (a.on w).2 := by
  unfold Raises at h
  split at h
  · cases h
  · rename_i e v hon
    rw [hon]
    exact ⟨e, rfl, h⟩

@[simp] theorem on_get (w : World σ τ) : (get : Act σ τ (World σ τ)).on w = (.ok w, w) := rfl

@[simp] theorem on_modify (f : World σ τ → World σ τ) (w : World σ τ) :
    (modify f : Act σ τ PUnit).on w = (.ok ⟨⟩, f w) := rfl

end Act

/-! ## Work -/

namespace Work

/-- The result of work in a world, or its failure, what was counted until then, and the world after it. -/
def on (a : Work σ τ α) (c : Counts) (w : World σ τ) : (Except Fault α × Counts) × World σ τ :=
  (a.run.run c).on w

@[simp] theorem run_on (a : Work σ τ α) (c : Counts) (w : World σ τ) : (a.run.run c).on w = a.on c w := rfl

@[simp] theorem on_pure (a : α) (c : Counts) (w : World σ τ) :
    (pure a : Work σ τ α).on c w = ((.ok a, c), w) := rfl

@[simp] theorem on_throw (e : Fault) (c : Counts) (w : World σ τ) :
    (throw e : Work σ τ α).on c w = ((.error e, c), w) := rfl

/-- The rest of some work after its first part. -/
def next (f : α → Work σ τ β) (r : (Except Fault α × Counts) × World σ τ) :
    (Except Fault β × Counts) × World σ τ :=
  match r.1.1 with
  | .ok a => (f a).on r.1.2 r.2
  | .error e => ((.error e, r.1.2), r.2)

@[simp] theorem next_ok (f : α → Work σ τ β) (a : α) (c : Counts) (w : World σ τ) :
    next f ((.ok a, c), w) = (f a).on c w := rfl

@[simp] theorem next_error (f : α → Work σ τ β) (e : Fault) (c : Counts) (w : World σ τ) :
    next f ((.error e, c), w) = ((.error e, c), w) := rfl

theorem on_bind (a : Work σ τ α) (f : α → Work σ τ β) (c : Counts) (w : World σ τ) :
    (a >>= f).on c w = next f (a.on c w) := by
  show Effect.on (StateT.run (ExceptT.run a >>= ExceptT.bindCont f) c) w = _
  rw [StateT.run_bind, Effect.on_bind]
  unfold next
  rcases h : a.on c w with ⟨⟨_ | _, c'⟩, w'⟩ <;> simp only [on] at h <;> rw [h] <;> rfl

@[simp] theorem on_ofAct (a : Act σ τ α) (c : Counts) (w : World σ τ) :
    (ofAct a).on c w = (((a.on w).1, c), (a.on w).2) := rfl

@[simp] theorem on_count (f : Counts → Counts) (c : Counts) (w : World σ τ) :
    (count f : Work σ τ Unit).on c w = ((.ok (), f c), w) := rfl

@[simp] theorem on_lift_run (a : Work σ τ α) (c : Counts) (w : World σ τ) :
    on (ExceptT.lift a.run : Work σ τ (Except Fault α)) c w =
      ((.ok (a.on c w).1.1, (a.on c w).1.2), (a.on c w).2) := rfl

@[simp] theorem on_lift_outcome (a : Act σ τ α) (c : Counts) (w : World σ τ) :
    on (ExceptT.lift (liftM a.outcome : StateT Counts (Effect σ τ) (Except Fault α)) :
      Work σ τ (Except Fault α)) c w = ((.ok (a.on w).1, c), (a.on w).2) := rfl

end Work

end SessionKeeper

import SessionKeeper.Proofs.Scope
import SessionKeeper.Rehearsal

/-!
# Keys of circuits

The key of a circuit is the name of a purpose, followed by an id. Two of the names continue another one, so an id can
complete the shorter name to the longer one, and then two purposes share a circuit.

* `Purpose`, `Purpose.key` : what is guarded for an id, and under which key.
* `Clash` : two texts that differ whatever follows them.
* `Purpose.Continues`, `Purpose.Shares` : one name continues another; an id completes it.
* `Purpose.key_eq_iff` : when two keys are equal.
* `Purpose.keys_shared` : a creation for one id and the records of another under one key.
* `World.Spares` : the entry of a key stays as it is; attempts under other keys do that.
* `Purpose.keys_apart` : circuits are apart exactly as far as their keys are.
-/

namespace SessionKeeper

/-! ## Purposes -/

/-- What is guarded for an id: that of a session, or of a workspace or record that is started. -/
inductive Purpose where
  | handling
  | update
  | creation
  | record
  | start
  | recordStart
deriving DecidableEq

namespace Purpose

def name : Purpose → String
  | handling => "session_"
  | update => "update_session_status_"
  | creation => "create_workspace_"
  | record => "create_workspace_record_"
  | start => "start_workspace_"
  | recordStart => "start_workspace_record_"

def key : Purpose → String → String
  | handling, id => "session_" ++ id
  | update, id => Registry.updateKey id
  | creation, id => Creation.circuitKey id
  | record, id => Registry.createKey id
  | start, id => Keeper.startKey id
  | recordStart, id => Registry.startKey id

theorem key_handling (s : Session) : handling.key s.id = s.circuitKey := rfl

theorem key_eq_append (p : Purpose) (id : String) : p.key id = p.name ++ id := by
  cases p <;> rfl

end Purpose

/-! ## Names that clash -/

/-- The texts differ at a place that both have. -/
def Clash : List Char → List Char → Bool
  | a :: as, b :: bs => a != b || Clash as bs
  | [], _ => false
  | _, [] => false

theorem append_ne_of_clash {as bs : List Char} (h : Clash as bs = true) (xs ys : List Char) :
    as ++ xs ≠ bs ++ ys := by
  induction as generalizing bs with
  | nil =>
    unfold Clash at h
    cases h
  | cons a as ih =>
    cases bs with
    | nil =>
      unfold Clash at h
      cases h
    | cons b bs =>
      intro heq
      rw [List.cons_append, List.cons_append, List.cons.injEq] at heq
      obtain ⟨hhead, htail⟩ := heq
      unfold Clash at h
      rw [Bool.or_eq_true, bne_iff_ne] at h
      rcases h with hne | hrest
      · exact hne hhead
      · exact ih hrest htail

namespace Purpose

/-- The name of the second purpose continues that of the first. -/
inductive Continues : Purpose → Purpose → Prop
  | record : Continues creation record
  | recordStart : Continues start recordStart

theorem Continues.name {p q : Purpose} (h : p.Continues q) : q.name = p.name ++ "record_" := by
  cases h <;> rfl

theorem clash_or_continues (p q : Purpose) :
    p = q ∨ Clash p.name.toList q.name.toList = true ∨ p.Continues q ∨ q.Continues p := by
  by_cases hclash : Clash p.name.toList q.name.toList = true
  · exact Or.inr (Or.inl hclash)
  · cases p <;> cases q <;> first
      | exact Or.inl rfl
      | exact absurd (by decide) hclash
      | exact Or.inr (Or.inr (Or.inl .record))
      | exact Or.inr (Or.inr (Or.inl .recordStart))
      | exact Or.inr (Or.inr (Or.inr .record))
      | exact Or.inr (Or.inr (Or.inr .recordStart))

/-! ## Equal keys -/

/-- The first id completes the name of the first purpose to the key of the second. -/
def Shares (p : Purpose) (i : String) (q : Purpose) (j : String) : Prop := p.Continues q ∧ i = "record_" ++ j

theorem Shares.key_eq {p q : Purpose} {i j : String} (h : p.Shares i q j) : p.key i = q.key j := by
  obtain ⟨hcontinues, rfl⟩ := h
  rw [key_eq_append, key_eq_append, hcontinues.name, String.append_assoc]

theorem Continues.shares {p q : Purpose} {i j : String} (h : p.Continues q) (hkey : p.key i = q.key j) :
    p.Shares i q j := by
  rw [key_eq_append, key_eq_append, h.name, String.append_assoc, String.append_right_inj] at hkey
  exact ⟨h, hkey⟩

theorem key_eq_iff {p q : Purpose} {i j : String} :
    p.key i = q.key j ↔ (p = q ∧ i = j) ∨ p.Shares i q j ∨ q.Shares j p i := by
  constructor
  · intro hkey
    rcases clash_or_continues p q with rfl | hclash | hpq | hqp
    · rw [key_eq_append, key_eq_append, String.append_right_inj] at hkey
      exact Or.inl ⟨rfl, hkey⟩
    · rw [key_eq_append, key_eq_append] at hkey
      have hchars := congrArg String.toList hkey
      rw [String.toList_append, String.toList_append] at hchars
      exact absurd hchars (append_ne_of_clash hclash _ _)
    · exact Or.inr (Or.inl (hpq.shares hkey))
    · exact Or.inr (Or.inr (hqp.shares hkey.symm))
  · rintro (⟨rfl, rfl⟩ | hpq | hqp)
    · rfl
    · exact hpq.key_eq
    · exact hqp.key_eq.symm

end Purpose

/-! ## Entries that stay -/

variable {σ τ : Type} {key other : String}

/-- The entry of the key is as it was. -/
def World.Spares (key : String) (w v : World σ τ) : Prop := v.circuits.find key = w.circuits.find key

theorem World.Spares.of_circuits {w v : World σ τ} (h : v.circuits = w.circuits) : w.Spares key v := by
  unfold Spares
  rw [h]

theorem World.Spares.course (key : String) :
    Course (fun _ => True) (World.Spares key : World σ τ → World σ τ → Prop) where
  trans huv hvw := Eq.trans hvw huv
  silent _ hcircuits := .of_circuits hcircuits
  sent _ _ hcircuits := .of_circuits hcircuits
  slept _ _ hcircuits := .of_circuits hcircuits

namespace Guard

variable [Timeline τ] [Surroundings σ τ]

theorem spares_isOpen (g : Guard τ) (h : key ≠ other) (w : World σ τ) : w.Spares key ((g.isOpen other).on w).2 :=
  (g.find_isOpen other key w).trans (if_neg h)

omit [Timeline τ] in
theorem spares_record {α : Type} (g : Guard τ) (h : key ≠ other) (outcome : Except Fault α) (w : World σ τ) :
    w.Spares key ((g.record other outcome).on w).2 := by
  cases outcome with
  | ok a => exact (find_succeed other key w).trans (if_neg h)
  | error e => exact (g.find_fail other key w).trans (if_neg h)

theorem spares_retry {α : Type} (g : Guard τ) (h : key ≠ other) {call : Act σ τ α}
    (hcall : call.Keeps (World.Spares key)) (attempts : Int) : (g.retry other attempts call).Keeps (World.Spares key) :=
  have hminds : g.Minds other (World.Spares key : World σ τ → World σ τ → Prop) :=
    .of_steps (World.Spares.course key).trans (g.spares_isOpen h) (g.spares_record h)
  keeps_retry (World.Spares.course key) hminds hcall attempts

end Guard

/-! ## Isolation -/

namespace Purpose

/-- Two failed creations for one id open the circuit of the records of another. -/
theorem keys_shared :
    (¬ ∀ (p q : Purpose) (i j : String), p ≠ q ∨ i ≠ j → p.key i ≠ q.key j) ∧
      ∃ (g : Guard Number) (w : World Rehearsal Number), w.circuits = [] ∧
        let failed := ((g.fail (creation.key "record_x")).on ((g.fail (creation.key "record_x")).on w).2).2
        ((g.isOpen (record.key "x")).on failed).1 = true := by
  refine ⟨fun h => h creation record "record_x" "x" (Or.inl nofun) (by decide), ⟨⟨2, .integer 60⟩, none⟩,
    ⟨{ Rehearsal.plain with clock := .integer 0 }, [], ⟨none, none⟩, []⟩, rfl, ?_⟩
  decide +kernel

/-- **Circuits are apart as far as their keys are.** Two keys are equal only for the same purpose and id, or when the
id of a creation or of a start begins with the word that leads on to the records. Where the keys differ, questions,
outcomes and retried calls of one leave the circuit of the other alone; where an id completes the key, a failure of
one counts for the other, and a success of the other forgets it. -/
theorem keys_apart [Timeline τ] [Surroundings σ τ] (p q : Purpose) (i j : String) :
    (p.key i = q.key j ↔ (p = q ∧ i = j) ∨ p.Shares i q j ∨ q.Shares j p i) ∧
    (p.key i ≠ q.key j → ∀ (g : Guard τ) (w : World σ τ),
      w.Spares (q.key j) ((g.isOpen (p.key i)).on w).2 ∧
      (∀ {α : Type} (outcome : Except Fault α), w.Spares (q.key j) ((g.record (p.key i) outcome).on w).2) ∧
      ∀ {α : Type} (call : Act σ τ α) (attempts : Int), call.Keeps (World.Spares (q.key j)) →
        w.Spares (q.key j) ((g.retry (p.key i) attempts call).on w).2) ∧
    (p.Shares i q j → ∀ (g : Guard τ) (w : World σ τ),
      ((g.fail (p.key i)).on w).2.circuits.failuresOf (q.key j) = w.circuits.failuresOf (q.key j) + 1 ∧
      ((Guard.succeed (q.key j) : Effect σ τ Unit).on w).2.circuits.find (p.key i) = none) := by
  refine ⟨key_eq_iff, fun hkey g w => ⟨?_, fun {_} outcome => ?_, fun {_} call attempts hcall => ?_⟩,
    fun hshares g w => ?_⟩
  · exact g.spares_isOpen hkey.symm w
  · exact g.spares_record hkey.symm outcome w
  · exact g.spares_retry hkey.symm hcall attempts w
  · rw [hshares.key_eq]
    refine ⟨g.failuresOf_fail (q.key j) w, ?_⟩
    rw [Guard.find_succeed, if_pos rfl]

/-- A failed creation counts for the records of another id, and leaves the starts alone. -/
theorem keys_apart_record :
    let g : Guard Number := ⟨⟨2, .integer 60⟩, none⟩
    let w : World Rehearsal Number := ⟨.plain, [], ⟨none, none⟩, []⟩
    ((g.fail (creation.key "record_x")).on w).2.circuits.failuresOf (record.key "x") = 1 ∧
      w.Spares (start.key "x") ((g.isOpen (creation.key "record_x")).on w).2 := by
  intro g w
  have hshared := (keys_apart creation record "record_x" "x").2.2 ⟨.record, by decide⟩ g w
  have hapart := (keys_apart creation start "record_x" "x").2.1 (by decide) g w
  exact ⟨hshared.1, hapart.1⟩

end Purpose

end SessionKeeper

import SessionKeeper.Proofs.Requests

/-!
# The stages of a creation

The creation of a workspace chooses a template, asks the provider for a workspace, starts it, and writes its
record; only the first two can keep it from returning one.

* `Creation.timeOf`, `Creation.nameFor` : the time of a creation, and the name that it asks for.
* `Creation.make` : a creation without its record; `Creation.createFor_on` puts the record back.
* `Creation.make_some` : the stages of a creation that made a workspace.
* `Guard.retry_ok` : a retried call that returned.
* `Creation.unrecorded?` : what a creation made whose record could not be written.
-/

namespace SessionKeeper

variable {σ τ α : Type} [Surroundings σ τ]

/-! ## Returned values -/

theorem Guard.retryFrom_ok [Timeline τ] {g : Guard τ} {key : String} {call : Act σ τ α} {attempt left : Nat}
    {last : Option Fault} {w v : World σ τ} {a : α} (h : (g.retryFrom key call attempt last left).on w = (.ok a, v)) :
    ∃ u z, call.on u = (.ok a, z) ∧ v = ((g.record key (.ok a : Except Fault α)).on z).2 := by
  have hone {last : Option Fault} {w v : World σ τ} {outcome : Except Fault α}
      (h : (g.trial key call last).on w = (.ok outcome, v)) :
      ∃ u z, call.on u = (outcome, z) ∧ v = ((g.record key outcome).on z).2 := by
    unfold trial at h
    obtain ⟨rejected, u, -, h⟩ := Act.on_bind_ok h
    cases rejected with
    | true => cases h
    | false =>
      obtain ⟨outcome', z, hcall, h⟩ := Act.on_bind_ok h
      obtain ⟨recorded, z', hrecord, h⟩ := Act.on_bind_ok h
      have hran : call.on u = (outcome', z) := Act.of_attempt hcall
      have hsame : outcome' = outcome := Except.ok.inj (congrArg Prod.fst h)
      have hend : z' = v := congrArg Prod.snd h
      rw [hsame] at hran hrecord
      exact ⟨u, z, hran, hend.symm.trans (congrArg Prod.snd hrecord).symm⟩
  -- an attempt that fails is followed by a wait and by one attempt less
  induction left generalizing attempt last w with
  | zero =>
    obtain ⟨outcome, u, htrial, h⟩ := Act.on_bind_ok h
    rw [Act.on_ofExcept] at h
    obtain ⟨rfl, rfl⟩ : outcome = .ok a ∧ u = v := by simpa using h
    exact hone htrial
  | succ left ih =>
    obtain ⟨outcome, u, htrial, h⟩ := Act.on_bind_ok h
    cases outcome with
    | ok b =>
      rw [Act.on_pure] at h
      obtain ⟨rfl, rfl⟩ : b = a ∧ u = v := by simpa using h
      exact hone htrial
    | error e =>
      dsimp only at h
      split_ifs at h
      · obtain ⟨-, z, -, h⟩ := Act.on_bind_ok h
        exact ih h
      · cases h

theorem Guard.retry_ok [Timeline τ] {g : Guard τ} {key : String} {call : Act σ τ α} {attempts : Int}
    {w v : World σ τ} {a : α} (h : (g.retry key attempts call).on w = (.ok a, v)) :
    ∃ u z, call.on u = (.ok a, z) ∧ v = ((g.record key (.ok a : Except Fault α)).on z).2 := by
  unfold retry at h
  split_ifs at h
  · cases h
  · exact retryFrom_ok h

/-! ## Stages -/

namespace Creation

variable [Timeline τ] {c : Creation τ} {s : Session} {w v : World σ τ}

def timeOf (c : Creation τ) (w : World σ τ) : Int :=
  (Surroundings.milliseconds ((c.provider.templates : Act σ τ (List Template)).on w).2.outside).1

def nameFor (c : Creation τ) (s : Session) (w : World σ τ) : String :=
  WorkspaceName.generate s.id s.name (c.timeOf w)

/-- Creates a workspace for a session and starts it, but writes no record. -/
def make (c : Creation τ) (s : Session) : Act σ τ (Option (Workspace × Template)) := do
  let ts ← c.provider.templates
  match Template.choose ts s.tags c.houseWord with
  | none => return none
  | some t => do
    let time ← Act.ofEffect Effect.milliseconds
    let name := WorkspaceName.generate s.id s.name time
    let x ← c.guard.retry (circuitKey s.id) attempts (c.provider.createOrGet name t.id)
    tolerating (c.provider.start x.id)
    return some (x, t)

/-- Writes the record of a workspace if records are written; a failure of that does no harm. -/
def keepRecord (c : Creation τ) (s : Session) (x : Workspace) (t : Template) : Act σ τ Unit :=
  if c.mirrors then tolerating (c.mirror s x t.id) else pure ()

theorem createFor_on (c : Creation τ) (s : Session) (w : World σ τ) :
    (c.createFor s).on w = Act.next (fun made => match made with
      | none => pure none
      | some (x, t) => do
        c.keepRecord s x t
        return some x) ((c.make s).on w) := by
  unfold createFor make
  rw [Act.on_bind, Act.on_bind]
  rcases htemplates : (c.provider.templates).on w with ⟨e | ts, u⟩
  · rfl
  · rw [Act.next_ok, Act.next_ok]
    cases hchosen : Template.choose ts s.tags c.houseWord with
    | none => rfl
    | some t =>
      dsimp only
      unfold createFrom keepRecord
      rw [Act.on_bind, Act.on_bind, Act.on_bind, Act.on_ofEffect, Act.next_ok, Act.next_ok, Act.on_bind, Act.on_bind]
      rcases hmade : (c.guard.retry (circuitKey s.id) attempts (c.provider.createOrGet
          (WorkspaceName.generate s.id s.name (Effect.milliseconds.on u).1) t.id)).on
          (Effect.milliseconds.on u).2 with ⟨e | x, z⟩
      · rfl
      · rw [Act.next_ok, Act.next_ok, Act.on_bind, Act.on_bind]
        rcases hstarted : (tolerating (c.provider.start x.id)).on z with ⟨e | _, y⟩
        · rfl
        · rw [Act.next_ok, Act.next_ok, Act.on_pure, Act.next_ok]
          dsimp only
          split_ifs
          · rw [Act.on_bind, Act.on_bind]
            rcases (tolerating (c.mirror s x t.id)).on y with ⟨e | _, y'⟩ <;> rfl
          · rfl

theorem createFor_some {x : Workspace} (h : (c.createFor s).on w = (.ok (some x), v)) :
    ∃ t y, (c.make s).on w = (.ok (some (x, t)), y) ∧ (c.keepRecord s x t).on y = (.ok (), v) := by
  rw [createFor_on] at h
  rcases hmade : (c.make s).on w with ⟨e | _ | ⟨x', t⟩, y⟩
  · rw [hmade] at h
    cases h
  · rw [hmade] at h
    cases h
  · rw [hmade] at h
    obtain ⟨⟨⟩, z, hkept, h⟩ := Act.on_bind_ok h
    obtain rfl : x' = x := Option.some.inj (Except.ok.inj (congrArg Prod.fst h))
    obtain rfl : z = v := congrArg Prod.snd h
    exact ⟨t, y, rfl, hkept⟩

theorem make_some {x : Workspace} {t : Template} (h : (c.make s).on w = (.ok (some (x, t)), v)) :
    ∃ u z : World σ τ, (c.provider.createOrGet (c.nameFor s w) t.id).on u = (.ok x, z) ∧ z.journal <:+ v.journal := by
  unfold make at h
  obtain ⟨ts, u, htemplates, h⟩ := Act.on_bind_ok h
  have htime : c.timeOf w = ((Effect.milliseconds : Effect σ τ Int).on u).1 := by
    unfold timeOf
    rw [htemplates]
    rfl
  cases hchosen : Template.choose ts s.tags c.houseWord with
  | none =>
    rw [hchosen] at h
    cases h
  | some t' =>
    rw [hchosen] at h
    obtain ⟨time, u', hread, h⟩ := Act.on_bind_ok h
    have hclock : ((Effect.milliseconds : Effect σ τ Int).on u).1 = time := Except.ok.inj (congrArg Prod.fst hread)
    obtain ⟨x', z, hmade, h⟩ := Act.on_bind_ok h
    obtain ⟨⟨⟩, y, hstarted, h⟩ := Act.on_bind_ok h
    have hpair : (x', t') = (x, t) := Option.some.inj (Except.ok.inj (congrArg Prod.fst h))
    obtain ⟨rfl, rfl⟩ : x' = x ∧ t' = t := by simpa using hpair
    obtain rfl : y = v := congrArg Prod.snd h
    obtain ⟨before, after, hcall, hrecorded⟩ := Guard.retry_ok hmade
    rw [← hclock, ← htime] at hcall
    refine ⟨before, after, hcall, ?_⟩
    have hrecording : Advance ⟨fun _ => True, fun _ => True⟩ after z := by
      rw [hrecorded]
      exact c.guard.within_record trivial _ after
    have hstarting : Advance ⟨fun _ => True, fun _ => True⟩ z ((tolerating (c.provider.start x'.id)).on z).2 :=
      within_tolerating (c.provider.within_start (fun _ _ => trivial) x'.id fun _ _ => trivial) z
    rw [hstarted] at hstarting
    exact (hrecording.trans hstarting).suffix

/-! ## Creations without a record -/

/-- The workspace that a creation made and the world after it, if its record should have been written but that
failed. -/
def unrecorded? (c : Creation τ) (s : Session) (w : World σ τ) : Option (Workspace × World σ τ) :=
  match (c.make s).on w with
  | (.ok (some (x, t)), y) =>
    match (c.mirror s x t.id).on y with
    | (.error e, v) => if c.mirrors && e.isOwn then some (x, v) else none
    | (.ok _, _) => none
  | _ => none

/-- The failure to write a record does no harm: the workspace is returned. -/
theorem createFor_unrecorded {x : Workspace} (h : c.unrecorded? s w = some (x, v)) :
    (c.createFor s).on w = (.ok (some x), v) := by
  unfold unrecorded? at h
  rcases hmade : (c.make s).on w with ⟨e | _ | ⟨x', t⟩, y⟩
  · simp [hmade] at h
  · simp [hmade] at h
  · rcases hfailed : (c.mirror s x' t.id).on y with ⟨e | ⟨⟩, v'⟩
    · simp only [hmade, hfailed, Option.ite_none_right_eq_some, Bool.and_eq_true, Option.some.injEq,
        Prod.mk.injEq] at h
      obtain ⟨⟨hmirrors, hown⟩, rfl, rfl⟩ := h
      have hkept : (c.keepRecord s x' t).on y = (.ok (), v') := by
        unfold keepRecord tolerating
        rw [if_pos hmirrors, Act.on_bind, Act.on_attempt, hfailed, Act.next_ok]
        dsimp only
        rw [if_pos hown]
        rfl
      rw [createFor_on, hmade, Act.next_ok]
      dsimp only
      rw [Act.on_bind, hkept]
      rfl
    · simp [hmade, hfailed] at h

end Creation

end SessionKeeper

import SessionKeeper.Proofs.Pass.Changes

/-!
# Changes are justified by what was read

A step of a pass changes nothing at the services but what its pass answers to the workspaces that the same
step read; where they cannot be read, it changes nothing.

* `OnlySent` : which requests were sent between two worlds.
* `Keeper.advance_passed` : a step that is let through, within a scope of its changes.
* `Keeper.step_unread`, `Keeper.step_read` : a step that is let through, by what it reads.
* `Keeper.step_justified` : the requests of a step.
-/

namespace SessionKeeper

variable {σ τ : Type}

/-- Between the two worlds only requests of that kind were sent. -/
def OnlySent (p : Request → Prop) (w v : World σ τ) : Prop :=
  ∃ news, v.journal = news ++ w.journal ∧ ∀ r x, .sent r x ∈ news → p r

theorem Advance.onlySent {s : Scope} {w v : World σ τ} (h : Advance s w v) : OnlySent s.sends w v := by
  obtain ⟨news, hnews, hallowed⟩ := h.journal
  exact ⟨news, hnews, fun r x hsent => hallowed _ hsent⟩

namespace Keeper

variable [Timeline τ] [Surroundings σ τ] {k : Keeper τ} {s : Session} {w u v z : World σ τ}
  {r : Report}

theorem onlySent_rejected (hask : (k.guard.isOpen s.circuitKey).on w = (true, u)) (r : Report) :
    OnlySent (fun _ => False) w ((k.step r s).on w).2 := by
  rw [step_rejected hask]
  have hasked : Advance ⟨fun _ => False, fun _ => True⟩ w ((k.guard.isOpen s.circuitKey).on w).2 :=
    k.guard.within_isOpen trivial w
  rw [hask] at hasked
  exact hasked.onlySent

/-- Asking, reading, some changes and the record of the outcome stay where the changes stay, and read. -/
theorem advance_passed {scope : Scope} {read : Except Fault (List Workspace)}
    (hquiet : ∀ q : Request, q.IsQuiet k.provider.keyring → scope.sends q) (htouches : ∀ key, scope.touches key)
    (hask : (k.guard.isOpen s.circuitKey).on w = (false, u)) (hread : (k.owned s).on u = (read, v))
    (hchanges : Advance scope v z) (outcome : Except Fault Unit) :
    Advance scope w ((k.guard.record s.circuitKey outcome).on z).2 := by
  have hasked : Advance scope w ((k.guard.isOpen s.circuitKey).on w).2 := k.guard.within_isOpen (htouches _) w
  have hreading : Advance scope u ((k.owned s).on u).2 := k.within_owned s hquiet u
  have hrecorded : Advance scope z ((k.guard.record s.circuitKey outcome).on z).2 :=
    k.guard.within_record (htouches _) outcome z
  rw [hask] at hasked
  rw [hread] at hreading
  exact ((hasked.trans hreading).trans hchanges).trans hrecorded

theorem onlySent_passed {ds : List Change} {read : Except Fault (List Workspace)}
    (hask : (k.guard.isOpen s.circuitKey).on w = (false, u)) (hread : (k.owned s).on u = (read, v))
    (hchanges : Changes k s ds v z) (outcome : Except Fault Unit) :
    OnlySent (fun q => q.IsQuiet k.provider.keyring ∨ ∃ d ∈ ds, d.Sends k s q) w
      ((k.guard.record s.circuitKey outcome).on z).2 := by
  let scope : Scope := ⟨fun q => q.IsQuiet k.provider.keyring ∨ ∃ d ∈ ds, d.Sends k s q, fun _ => True⟩
  have hdone : Advance scope v z := hchanges.advance.mono (fun _ => Or.inr) fun _ _ => trivial
  exact (advance_passed (fun _ => Or.inl) (fun _ => trivial) hask hread hdone outcome).onlySent

theorem step_unread {e : Fault} (hask : (k.guard.isOpen s.circuitKey).on w = (false, u))
    (hread : (k.owned s).on u = (.error e, v)) (r : Report) :
    OnlySent (Request.IsQuiet k.provider.keyring) w ((k.step r s).on w).2 := by
  rw [step_passed hask (handle_unread hread r.pass r.counts)]
  have hnothing : Changes k s [] v v := rfl
  obtain ⟨news, hnews, hsent⟩ := onlySent_passed hask hread hnothing (.error e)
  exact ⟨news, hnews, fun q x hq => by simpa using hsent q x hq⟩

theorem step_read {ws : List Workspace} (hask : (k.guard.isOpen s.circuitKey).on w = (false, u))
    (hread : (k.owned s).on u = (.ok ws, v)) (r : Report) :
    ∃ ds outcome z, r.pass.Answers ws ds outcome ∧ Changes k s ds v z ∧
      ((k.step r s).on w).2 = ((k.guard.record s.circuitKey outcome).on z).2 ∧
      OnlySent (fun q => q.IsQuiet k.provider.keyring ∨ ∃ d ∈ ds, d.Sends k s q) w ((k.step r s).on w).2 := by
  obtain ⟨ds, outcome, z, hanswer, hchanges, hrun⟩ := handle_read hread r.pass r.counts
  rw [step_passed hask hrun]
  exact ⟨ds, outcome, z, hanswer, hchanges, rfl, onlySent_passed hask hread hchanges outcome⟩

/-- **Every change is justified by what the same step read.** A step whose session is rejected sends
nothing. A step that cannot read the workspaces of its session only reads. Any other step does what its pass
answers to the workspaces, and sends nothing beside that but what reads. -/
theorem step_justified (k : Keeper τ) (r : Report) (s : Session) (w : World σ τ) :
    (((k.guard.isOpen s.circuitKey).on w).1 = true → OnlySent (fun _ => False) w ((k.step r s).on w).2) ∧
    (((k.guard.isOpen s.circuitKey).on w).1 = false →
      ∀ read v, (k.owned s).on ((k.guard.isOpen s.circuitKey).on w).2 = (read, v) →
        (∀ e, read = .error e → OnlySent (Request.IsQuiet k.provider.keyring) w ((k.step r s).on w).2) ∧
        (∀ ws, read = .ok ws → ∃ ds outcome z, r.pass.Answers ws ds outcome ∧ Changes k s ds v z ∧
          ((k.step r s).on w).2 = ((k.guard.record s.circuitKey outcome).on z).2 ∧
          OnlySent (fun q => q.IsQuiet k.provider.keyring ∨ ∃ d ∈ ds, d.Sends k s q) w ((k.step r s).on w).2)) := by
  rcases hask : (k.guard.isOpen s.circuitKey).on w with ⟨rejected, u⟩
  refine ⟨?_, ?_⟩
  · rintro rfl
    exact onlySent_rejected hask r
  · rintro rfl read v hread
    refine ⟨?_, ?_⟩
    · rintro e rfl
      exact step_unread hask hread r
    · rintro ws rfl
      exact step_read hask hread r

end Keeper

end SessionKeeper

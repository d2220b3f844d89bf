import SessionKeeper.Proofs.Pass.Course
import SessionKeeper.Proofs.Pass.Owned

/-!
# Who starts workspaces

Beside creations, only an active pass starts workspaces, and only for a session of which one runs.

* `Request.isStart`, `Event.isStart` : requests that start a workspace.
* `Change.Asks.isStart` : of the changes, creations and starts send such requests.
* `Pass.Answers.no_start` : no pass answers with a start where nothing runs.
* `Check.StartsNothing`, `Check.startsNothing` : a check of a session whose workspaces all rest starts none.
-/

namespace SessionKeeper

variable {σ τ : Type}

/-! ## Requests -/

/-- Whether the request posts a transition to the started state. -/
def Request.isStart (r : Request) : Bool :=
  match r.body with
  | some (.object [("transition", .text word)]) => r.method == "POST" && word == "start"
  | _ => false

def Event.isStart : Event τ → Bool
  | .sent r _ => r.isStart
  | .slept _ | .asked _ _ | .succeeded _ | .failed _ _ | .pruned _ => false

theorem Request.IsQuiet.isStart {k : Keyring} {r : Request} (h : r.IsQuiet k) : r.isStart = false := by
  unfold Request.isStart
  rcases h with hget | ⟨token, hrenewal⟩
  · rw [hget]
    split
    · rfl
    · rfl
  · rw [hrenewal.body]
    rfl

theorem Change.Asks.isStart {k : Keeper τ} {s : Session} {d : Change} {r : Request} (h : d.Asks k s r)
    (hcreate : ∀ created, d ≠ .create created) (hstart : ∀ id started, d ≠ .start id started) :
    r.isStart = false := by
  cases d with
  | create created => exact absurd rfl (hcreate created)
  | update status updated =>
    have hbody : r.body = some (.object [("status", .text status.text)]) := h.body
    unfold Request.isStart
    rw [hbody]
    rfl
  | start id started => exact absurd rfl (hstart id started)

/-! ## Checks -/

theorem Pass.Answers.no_start {p : Pass} {ws : List Workspace} {ds : List Change} {outcome : Except Fault Unit}
    (h : p.Answers ws ds outcome) (hrest : ∀ y ∈ ws, ¬ y.IsRunning) (id : String) (started : Except Fault Unit) :
    .start id started ∉ ds := by
  intro hd
  rcases h.mem hd with ⟨-, updated, heq⟩ | ⟨-, created, heq⟩ | ⟨rfl, x, hx, hstopped, -⟩
  · cases heq
  · cases heq
  · obtain ⟨updated, rfl, -⟩ := h.2.1 hrest ⟨x, hx, hstopped⟩
    simp at hd

namespace Check

variable [Timeline τ] [Surroundings σ τ] {k : Keeper τ}

def StartsNothing (k : Keeper τ) (t : Check σ τ) : Prop := ∀ e ∈ t.news k, e.isStart = false

instance (k : Keeper τ) (t : Check σ τ) : Decidable (t.StartsNothing k) :=
  inferInstanceAs (Decidable (∀ e ∈ t.news k, e.isStart = false))

theorem startsNothing_of_onlySent {t : Check σ τ}
    (h : OnlySent (fun r => r.isStart = false) t.before (t.after k)) : t.StartsNothing k := by
  intro e he
  cases e with
  | sent r x => exact (onlySent_news h).2 r x he
  | slept seconds => rfl
  | asked key rejected => rfl
  | succeeded key => rfl
  | failed key time => rfl
  | pruned time => rfl

/-- A check starts nothing if its session has workspaces of which none runs, or they cannot be read. -/
theorem startsNothing {t : Check σ τ}
    (howned : ∀ ws v, (k.owned t.session).on (t.world k) = (.ok ws, v) → ws ≠ [] ∧ ∀ y ∈ ws, ¬ y.IsRunning) :
    t.StartsNothing k := by
  apply startsNothing_of_onlySent
  refine onlySent_of_answers (fun r hquiet => hquiet.isStart) fun ws v hread ds outcome hanswer d hd r hsends => ?_
  obtain ⟨hsome, hrest⟩ := howned ws v hread
  have hcreate (created) : d ≠ .create created := fun h => hanswer.no_create hsome created (h ▸ hd)
  have hstart (id started) : d ≠ .start id started := fun h => hanswer.no_start hrest id started (h ▸ hd)
  have hasks : d.Asks k t.session r := by
    cases d with
    | create created => exact absurd rfl (hcreate created)
    | update status updated => exact hsends
    | start id started => exact hsends
  exact hasks.isStart hcreate hstart

end Check

end SessionKeeper

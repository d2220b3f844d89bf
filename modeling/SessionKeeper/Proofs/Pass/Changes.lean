import SessionKeeper.Proofs.Requests
import SessionKeeper.Proofs.Workspace.Partition

/-!
# What is done for a session

The handling of a session reads its workspaces, and then does what the pass answers to them.

* `Workspace.IsRunning`, `Workspace.IsStopped` : the two conditions that decide.
* `Change`, `Changes` : the operations that change something, as steps between worlds.
* `Pass.Answers` : which changes a pass answers to the workspaces of a session, and how the handling ends.
* `Keeper.handle_read`, `Keeper.handle_unread` : the handling is the reading and those changes.
-/

namespace SessionKeeper

variable {σ τ α : Type}

/-! ## Conditions -/

/-- The workspace runs or will. -/
def Workspace.IsRunning (w : Workspace) : Prop := Condition.ofStatus w.status = .running

/-- The workspace does not run. -/
def Workspace.IsStopped (w : Workspace) : Prop := Condition.ofStatus w.status = .stopped

instance (w : Workspace) : Decidable w.IsRunning := inferInstanceAs (Decidable (_ = _))

instance (w : Workspace) : Decidable w.IsStopped := inferInstanceAs (Decidable (_ = _))

namespace Partition

theorem running_ofList (ws : List Workspace) :
    (ofList Workspace.status ws).running = ws.filter fun w => w.IsRunning :=
  bucket_ofList Workspace.status ws .running

theorem stopped_ofList (ws : List Workspace) :
    (ofList Workspace.status ws).stopped = ws.filter fun w => w.IsStopped :=
  bucket_ofList Workspace.status ws .stopped

theorem running_isEmpty (ws : List Workspace) :
    (ofList Workspace.status ws).running.isEmpty = true ↔ ∀ w ∈ ws, ¬ w.IsRunning := by
  rw [running_ofList, List.isEmpty_iff, List.filter_eq_nil_iff]
  simp

theorem stopped_isEmpty (ws : List Workspace) :
    (ofList Workspace.status ws).stopped.isEmpty = true ↔ ∀ w ∈ ws, ¬ w.IsStopped := by
  rw [stopped_ofList, List.isEmpty_iff, List.filter_eq_nil_iff]
  simp

theorem allStopped_iff (ws : List Workspace) :
    (ofList Workspace.status ws).allStopped = true ↔
      (∀ w ∈ ws, ¬ w.IsRunning) ∧ ∃ w ∈ ws, w.IsStopped := by
  rw [allStopped, Bool.and_eq_true, running_isEmpty, Bool.not_eq_true', ← Bool.not_eq_true, stopped_isEmpty]
  push Not
  rfl

theorem isMixed_iff (ws : List Workspace) :
    (ofList Workspace.status ws).isMixed = true ↔
      (∃ w ∈ ws, w.IsRunning) ∧ ∃ w ∈ ws, w.IsStopped := by
  rw [isMixed, Bool.and_eq_true, Bool.not_eq_true', Bool.not_eq_true', ← Bool.not_eq_true, ← Bool.not_eq_true,
    running_isEmpty, stopped_isEmpty]
  push Not
  rfl

end Partition

/-! ## Changes -/

/-- An operation that changes something, and what came of it. -/
inductive Change where
  | create (outcome : Except Fault (Option Workspace))
  | update (status : SessionStatus) (outcome : Except Fault (Option Session))
  | start (id : String) (outcome : Except Fault Unit)

namespace Change

/-- The change, done for a session in one world, leads to another. -/
def Does [Timeline τ] [Surroundings σ τ] (k : Keeper τ) (s : Session) : Change → World σ τ → World σ τ → Prop
  | create outcome, w, v => (k.creation.createFor s).on w = (outcome, v)
  | update status outcome, w, v => (k.registry.updateStatusRetrying s.id status).on w = (outcome, v)
  | start id outcome, w, v =>
    (k.guard.retry (Keeper.startKey id) Keeper.startAttempts (k.provider.start id)).on w = (outcome, v)

def tally : Change → Counts → Counts
  | create (.ok (some _)), c => { c with created := c.created + 1 }
  | update .active (.ok _), c => { c with activated := c.activated + 1 }
  | update .inactive (.ok _), c => { c with deactivated := c.deactivated + 1 }
  | start _ (.ok _), c => { c with started := c.started + 1 }
  | _, c => c

end Change

/-- Several changes, one after the other. -/
def Changes [Timeline τ] [Surroundings σ τ] (k : Keeper τ) (s : Session) :
    List Change → World σ τ → World σ τ → Prop
  | [], w, v => v = w
  | d :: ds, w, v => ∃ u, d.Does k s w u ∧ Changes k s ds u v

def tallyAll (ds : List Change) (c : Counts) : Counts := ds.foldl (fun c d => d.tally c) c

/-! ## The scope of changes -/

namespace Change

/-- What a change sends: a creation reads and posts, an update sends only itself, a start reads nothing but a
new token and starts its workspace. -/
def Sends (k : Keeper τ) (s : Session) : Change → Request → Prop
  | create _, r => r.IsQuiet k.creation.provider.keyring ∨ r.method = "POST"
  | update status _, r => (k.registry.updateCall s.id status).Carries r
  | start id _, r => r.IsQuiet k.provider.keyring ∨ (k.provider.transitionCall id "start").Carries r

def Touches (s : Session) : Change → String → Prop
  | create _, key => key = Creation.circuitKey s.id ∨ key = Registry.createKey s.id
  | update _ _, key => key = Registry.updateKey s.id
  | start id _, key => key = Keeper.startKey id

theorem Does.advance [Timeline τ] [Surroundings σ τ] {k : Keeper τ} {s : Session} {d : Change}
    {w v : World σ τ} (h : d.Does k s w v) : Advance ⟨d.Sends k s, d.Touches s⟩ w v := by
  cases d with
  | create outcome =>
    obtain rfl : ((k.creation.createFor s).on w).2 = v := congrArg Prod.snd h
    exact k.creation.within_createFor (fun _ hr => hr.quiet_or_post) (Or.inl rfl) (Or.inr rfl) w
  | update status outcome =>
    obtain rfl : ((k.registry.updateStatusRetrying s.id status).on w).2 = v := congrArg Prod.snd h
    exact k.registry.within_updateStatusRetrying s.id status rfl (fun _ hr => hr) w
  | start id outcome =>
    obtain rfl : ((k.guard.retry (Keeper.startKey id) Keeper.startAttempts (k.provider.start id)).on w).2 = v :=
      congrArg Prod.snd h
    exact k.guard.within_retry rfl (k.provider.within_start (fun _ => Or.inl) id fun _ => Or.inr) _ w

end Change

theorem Changes.advance [Timeline τ] [Surroundings σ τ] {k : Keeper τ} {s : Session} {ds : List Change}
    {w v : World σ τ} (h : Changes k s ds w v) :
    Advance ⟨fun r => ∃ d ∈ ds, d.Sends k s r, fun key => ∃ d ∈ ds, d.Touches s key⟩ w v := by
  induction ds generalizing w with
  | nil =>
    obtain rfl : v = w := h
    exact .refl _ _
  | cons d ds ih =>
    obtain ⟨u, hd, hrest⟩ := h
    have hfirst : Advance ⟨fun r => ∃ d' ∈ d :: ds, d'.Sends k s r, fun key => ∃ d' ∈ d :: ds, d'.Touches s key⟩
        w u := hd.advance.mono (fun r hr => ⟨d, List.mem_cons_self, hr⟩)
      fun key hkey => ⟨d, List.mem_cons_self, hkey⟩
    refine hfirst.trans ((ih hrest).mono (fun r ⟨d', hd', hr⟩ => ?_) fun key ⟨d', hd', hkey⟩ => ?_)
    · exact ⟨d', List.mem_cons_of_mem d hd', hr⟩
    · exact ⟨d', List.mem_cons_of_mem d hd', hkey⟩

/-! ## Decisions -/

/-- An outcome without its value. -/
def settled (outcome : Except Fault α) : Except Fault Unit := outcome.map fun _ => ()

/-- The outcomes are those of all `n` things that were to be done, or the last of them is a failure that is
not the keeper's own. -/
def Reaches (outcomes : List (Except Fault α)) (n : Nat) : Prop :=
  outcomes.length = n ∨ ∃ e, e.isOwn = false ∧ outcomes.getLast? = some (.error e)

theorem Reaches.cons {outcomes : List (Except Fault α)} {n : Nat} (h : Reaches outcomes n)
    (o : Except Fault α) : Reaches (o :: outcomes) (n + 1) := by
  rcases h with h | ⟨e, he, hlast⟩
  · exact Or.inl (congrArg (· + 1) h)
  · exact Or.inr ⟨e, he, by rw [List.getLast?_cons, hlast, Option.getD_some]⟩

/-- The changes that a pass answers to the workspaces of a session, and how the handling ends. -/
def Pass.Answers : Pass → List Workspace → List Change → Except Fault Unit → Prop
  | .new, ws, ds, outcome =>
    (ws ≠ [] → ∃ updated, ds = [.update .active updated] ∧ outcome = settled updated) ∧
    (ws = [] →
      (∃ created updated, (∀ e, created = .error e → e.isOwn = true) ∧
        ds = [.create created, .update .active updated] ∧ outcome = settled updated) ∨
      ∃ e, e.isOwn = false ∧ ds = [.create (.error e)] ∧ outcome = .error e)
  | .inactive, ws, ds, outcome =>
    ((∃ w ∈ ws, w.IsRunning) → ∃ updated, ds = [.update .active updated] ∧ outcome = settled updated) ∧
    ((∀ w ∈ ws, ¬ w.IsRunning) → ds = [] ∧ outcome = .ok ())
  | .active, ws, ds, outcome =>
    (ws = [] → ∃ created, ds = [.create created] ∧ outcome = settled created) ∧
    ((∀ w ∈ ws, ¬ w.IsRunning) → (∃ w ∈ ws, w.IsStopped) →
      ∃ updated, ds = [.update .inactive updated] ∧ outcome = settled updated) ∧
    ((∃ w ∈ ws, w.IsRunning) → (∃ w ∈ ws, w.IsStopped) →
      ∃ started, ds = (ws.filter (·.IsStopped)).zipWith (fun w o => .start w.id o) started ∧
        Reaches started (ws.filter (·.IsStopped)).length) ∧
    (ws ≠ [] → (∀ w ∈ ws, ¬ w.IsStopped) → ds = [] ∧ outcome = .ok ())

namespace Keeper

variable [Timeline τ] [Surroundings σ τ] {k : Keeper τ} {s : Session} {c : Counts} {w v : World σ τ}

theorem setStatus_on (k : Keeper τ) (s : Session) (status : SessionStatus) (c : Counts) (w : World σ τ) :
    ∃ updated v, (Change.update status updated).Does k s w v ∧
      (k.setStatus s status).on c w = ((settled updated, c), v) := by
  rcases hrun : (k.registry.updateStatusRetrying s.id status).on w with ⟨updated, v⟩
  refine ⟨updated, v, hrun, ?_⟩
  unfold setStatus
  rw [Work.on_ofAct, Act.on_bind, hrun]
  cases updated with
  | ok x => rfl
  | error e => rfl

theorem create_on (k : Keeper τ) (s : Session) (c : Counts) (w : World σ τ) :
    ∃ created v, (Change.create created).Does k s w v ∧
      (k.create s).on c w = ((settled created, (Change.create created).tally c), v) := by
  rcases hrun : (k.creation.createFor s).on w with ⟨created, v⟩
  refine ⟨created, v, hrun, ?_⟩
  unfold create
  rw [Work.on_bind, Work.on_ofAct, hrun]
  rcases created with e | _ | x
  · rfl
  · rfl
  · rfl

omit [Timeline τ] [Surroundings σ τ] in
theorem tolerating_on (a : Work σ τ Unit) (c : Counts) (w : World σ τ) :
    (tolerating a).on c w =
      ((match (a.on c w).1.1 with
        | .ok _ => .ok ()
        | .error e => if e.isOwn then .ok () else .error e, (a.on c w).1.2), (a.on c w).2) := by
  unfold tolerating
  rw [Work.on_bind, Work.on_lift_run, Work.next_ok]
  cases (a.on c w).1.1 with
  | ok _ => rfl
  | error e =>
    dsimp only
    split_ifs
    · rfl
    · rfl

/-- The turn of one workspace: a start is counted, a failure is kept in mind, and one that is not the keeper's own ends
the whole. -/
theorem startAll_cons (k : Keeper τ) (last : Option Fault) (x : Workspace) (ws : List Workspace) (c : Counts)
    (w : World σ τ) :
    (k.startAll last (x :: ws)).on c w =
      match (k.guard.retry (startKey x.id) startAttempts (k.provider.start x.id)).on w with
      | (.ok _, v) => (k.startAll last ws).on { c with started := c.started + 1 } v
      | (.error e, v) => if e.isOwn then (k.startAll (some e) ws).on c v else ((.error e, c), v) := by
  rw [startAll, Work.on_bind, Work.on_lift_outcome, Work.next_ok]
  rcases (k.guard.retry (startKey x.id) startAttempts (k.provider.start x.id)).on w with ⟨e | _, v⟩
  · dsimp only
    split_ifs
    · rfl
    · rfl
  · dsimp only
    rw [Work.on_bind, Work.on_count, Work.next_ok]

/-- Workspaces are started in order, up to a failure that is not the keeper's own. -/
theorem startAll_on (k : Keeper τ) (s : Session) (last : Option Fault) (ws : List Workspace) (c : Counts)
    (w : World σ τ) :
    ∃ started outcome v, Reaches started ws.length ∧
      Changes k s (ws.zipWith (fun w o => .start w.id o) started) w v ∧
      (k.startAll last ws).on c w =
        ((outcome, tallyAll (ws.zipWith (fun w o => .start w.id o) started) c), v) := by
  -- the failure so far only decides the outcome of the whole, so it is general in the induction
  induction ws generalizing last c w with
  | nil =>
    cases last with
    | none => exact ⟨[], .ok (), w, Or.inl rfl, rfl, rfl⟩
    | some e => exact ⟨[], .error e, w, Or.inl rfl, rfl, rfl⟩
  | cons x ws ih =>
    rcases hrun : (k.guard.retry (startKey x.id) startAttempts (k.provider.start x.id)).on w with ⟨o, u⟩
    rw [startAll_cons, hrun]
    cases o with
    | ok _ =>
      obtain ⟨started, outcome, v, hall, hchanges, hrest⟩ := ih last { c with started := c.started + 1 } u
      exact ⟨.ok () :: started, outcome, v, hall.cons _, ⟨u, hrun, hchanges⟩, hrest⟩
    | error e =>
      dsimp only
      split_ifs with hown
      · obtain ⟨started, outcome, v, hall, hchanges, hrest⟩ := ih (some e) c u
        exact ⟨.error e :: started, outcome, v, hall.cons _, ⟨u, hrun, hchanges⟩, hrest⟩
      · refine ⟨[.error e], .error e, u, Or.inr ⟨e, by simpa using hown, rfl⟩, ?_, ?_⟩
        · rw [List.zipWith_cons_cons, List.zipWith_nil_right]
          exact ⟨u, hrun, rfl⟩
        · rw [List.zipWith_cons_cons, List.zipWith_nil_right]
          rfl

theorem handle_unread {e : Fault} (hread : (k.owned s).on w = (.error e, v)) (p : Pass) (c : Counts) :
    (k.handle p s).on c w = ((.error e, c), v) := by
  cases p with
  | new =>
    show (k.handleNew s).on c w = _
    rw [handleNew, Work.on_bind, Work.on_ofAct, hread, Work.next_error]
  | active =>
    show (k.handleActive s).on c w = _
    rw [handleActive, Work.on_bind, Work.on_ofAct, hread, Work.next_error]
  | inactive =>
    show (k.handleInactive s).on c w = _
    rw [handleInactive, Work.on_bind, Work.on_ofAct, hread, Work.next_error]

/-- The work, done with these counts in this world, makes the changes that the pass answers to the
workspaces. -/
def Performs (k : Keeper τ) (s : Session) (p : Pass) (ws : List Workspace) (a : Work σ τ Unit) (c : Counts)
    (w : World σ τ) : Prop :=
  ∃ ds outcome v, p.Answers ws ds outcome ∧ Changes k s ds w v ∧ a.on c w = ((outcome, tallyAll ds c), v)

theorem setStatus_count_on (k : Keeper τ) (s : Session) (status : SessionStatus) {f : Counts → Counts}
    (hf : ∀ x c, (Change.update status (.ok x)).tally c = f c) (c : Counts) (w : World σ τ) :
    ∃ updated v, (Change.update status updated).Does k s w v ∧
      (do k.setStatus s status
          Work.count f : Work σ τ Unit).on c w =
        ((settled updated, (Change.update status updated).tally c), v) := by
  obtain ⟨updated, v, hchange, hrun⟩ := k.setStatus_on s status c w
  refine ⟨updated, v, hchange, ?_⟩
  rw [Work.on_bind, hrun]
  cases updated with
  | ok x =>
    rw [hf]
    rfl
  | error e => cases status <;> rfl

theorem activate_on (k : Keeper τ) (s : Session) (c : Counts) (w : World σ τ) :
    ∃ updated v, (Change.update .active updated).Does k s w v ∧
      (do k.setStatus s .active
          Work.count fun c => { c with activated := c.activated + 1 } : Work σ τ Unit).on c w =
        ((settled updated, (Change.update .active updated).tally c), v) :=
  k.setStatus_count_on s .active (fun _ _ => rfl) c w

theorem deactivate_on (k : Keeper τ) (s : Session) (c : Counts) (w : World σ τ) :
    ∃ updated v, (Change.update .inactive updated).Does k s w v ∧
      (do k.setStatus s .inactive
          Work.count fun c => { c with deactivated := c.deactivated + 1 } : Work σ τ Unit).on c w =
        ((settled updated, (Change.update .inactive updated).tally c), v) :=
  k.setStatus_count_on s .inactive (fun _ _ => rfl) c w

variable {ws : List Workspace}

/-! ### New sessions -/

theorem performs_activate (hws : ws ≠ []) (c : Counts) (w : World σ τ) :
    Performs k s .new ws (do
      k.setStatus s .active
      Work.count fun c => { c with activated := c.activated + 1 }) c w := by
  obtain ⟨updated, v, hchange, hrun⟩ := k.activate_on s c w
  exact ⟨[.update .active updated], settled updated, v, ⟨fun _ => ⟨updated, rfl, rfl⟩, fun h => absurd h hws⟩,
    ⟨v, hchange, rfl⟩, hrun⟩

theorem performs_create_activate (c : Counts) (w : World σ τ) :
    Performs k s .new [] (do
      tolerating (k.create s)
      k.setStatus s .active
      Work.count fun c => { c with activated := c.activated + 1 }) c w := by
  obtain ⟨created, u, hcreate, hcreated⟩ := k.create_on s c w
  obtain ⟨updated, v, hchange, hrun⟩ := k.activate_on s ((Change.create created).tally c) u
  have hboth : Changes k s [.create created, .update .active updated] w v := ⟨u, hcreate, v, hchange, rfl⟩
  unfold Performs
  rw [Work.on_bind, tolerating_on, hcreated]
  by_cases hown : ∀ e, created = .error e → e.isOwn = true
  · refine ⟨[.create created, .update .active updated], settled updated, v, ⟨fun h => absurd rfl h, fun _ => ?_⟩,
      hboth, ?_⟩
    · exact Or.inl ⟨created, updated, hown, rfl, rfl⟩
    · cases created with
      | ok x => exact hrun
      | error e =>
        simp only [settled, Except.map, hown e rfl, if_true, Work.next_ok]
        exact hrun
  · push Not at hown
    obtain ⟨e, rfl, hforeign⟩ := hown
    refine ⟨[.create (.error e)], .error e, u, ⟨fun h => absurd rfl h, fun _ => ?_⟩, ⟨u, hcreate, rfl⟩, ?_⟩
    · exact Or.inr ⟨e, by simpa using hforeign, rfl, rfl⟩
    · simp only [settled, Except.map, if_neg hforeign, Work.next_error]
      rfl

theorem handleNew_read (hread : (k.owned s).on w = (.ok ws, v)) (c : Counts) :
    ∃ ds outcome z, Pass.new.Answers ws ds outcome ∧ Changes k s ds v z ∧
      (k.handleNew s).on c w = ((outcome, tallyAll ds c), z) := by
  unfold handleNew
  rw [Work.on_bind, Work.on_ofAct, hread, Work.next_ok]
  cases ws with
  | cons x ws => exact performs_activate (List.cons_ne_nil x ws) c v
  | nil => exact performs_create_activate c v

/-! ### Inactive sessions -/

theorem handleInactive_read (hread : (k.owned s).on w = (.ok ws, v)) (c : Counts) :
    ∃ ds outcome z, Pass.inactive.Answers ws ds outcome ∧ Changes k s ds v z ∧
      (k.handleInactive s).on c w = ((outcome, tallyAll ds c), z) := by
  unfold handleInactive
  rw [Work.on_bind, Work.on_ofAct, hread, Work.next_ok]
  by_cases hrunning : ∃ w ∈ ws, w.IsRunning
  · obtain ⟨updated, z, hchange, hrun⟩ := k.activate_on s c v
    have hfilled : (Partition.ofList Workspace.status ws).running.isEmpty = false := by
      rw [← Bool.not_eq_true, Partition.running_isEmpty]
      push Not
      exact hrunning
    rw [hfilled]
    refine ⟨[.update .active updated], settled updated, z, ⟨fun _ => ⟨updated, rfl, rfl⟩, fun hnone => ?_⟩,
      ⟨z, hchange, rfl⟩, hrun⟩
    obtain ⟨x, hx, hruns⟩ := hrunning
    exact absurd hruns (hnone x hx)
  · push Not at hrunning
    rw [(Partition.running_isEmpty ws).mpr hrunning]
    exact ⟨[], .ok (), v, ⟨fun ⟨x, hx, h⟩ => absurd h (hrunning x hx), fun _ => ⟨rfl, rfl⟩⟩, rfl, rfl⟩

/-! ### Active sessions -/

theorem performs_create (c : Counts) (w : World σ τ) : Performs k s .active [] (k.create s) c w := by
  obtain ⟨created, v, hchange, hrun⟩ := k.create_on s c w
  refine ⟨[.create created], settled created, v, ?_, ⟨v, hchange, rfl⟩, hrun⟩
  exact ⟨fun _ => ⟨created, rfl, rfl⟩, by simp, by simp, fun h => absurd rfl h⟩

theorem performs_deactivate (hnone : ∀ w ∈ ws, ¬ w.IsRunning) (hstopped : ∃ w ∈ ws, w.IsStopped) (c : Counts)
    (w : World σ τ) :
    Performs k s .active ws (do
      k.setStatus s .inactive
      Work.count fun c => { c with deactivated := c.deactivated + 1 }) c w := by
  obtain ⟨updated, v, hchange, hrun⟩ := k.deactivate_on s c w
  obtain ⟨x, hx, hstop⟩ := hstopped
  refine ⟨[.update .inactive updated], settled updated, v, ?_, ⟨v, hchange, rfl⟩, hrun⟩
  refine ⟨fun hws => ?_, fun _ _ => ⟨updated, rfl, rfl⟩, fun ⟨y, hy, hruns⟩ => absurd hruns (hnone y hy),
    fun _ h => absurd hstop (h x hx)⟩
  rw [hws] at hx
  cases hx

theorem performs_startAll (hrunning : ∃ w ∈ ws, w.IsRunning) (hstopped : ∃ w ∈ ws, w.IsStopped) (c : Counts)
    (w : World σ τ) : Performs k s .active ws (k.startAll none (ws.filter (·.IsStopped))) c w := by
  obtain ⟨started, outcome, v, hall, hchanges, hrun⟩ := k.startAll_on s none (ws.filter (·.IsStopped)) c w
  obtain ⟨x, hx, hruns⟩ := hrunning
  obtain ⟨y, hy, hstop⟩ := hstopped
  refine ⟨_, outcome, v, ⟨fun hws => ?_, fun h => absurd hruns (h x hx), fun _ _ => ⟨started, rfl, hall⟩,
    fun _ h => absurd hstop (h y hy)⟩, hchanges, hrun⟩
  rw [hws] at hx
  cases hx

theorem performs_nothing (hws : ws ≠ []) (hnone : ∀ w ∈ ws, ¬ w.IsStopped) (c : Counts) (w : World σ τ) :
    Performs k s .active ws (pure ()) c w :=
  ⟨[], .ok (), w, ⟨fun h => absurd h hws, fun _ ⟨x, hx, h⟩ => absurd h (hnone x hx),
    fun _ ⟨x, hx, h⟩ => absurd h (hnone x hx), fun _ _ => ⟨rfl, rfl⟩⟩, rfl, rfl⟩

theorem handleActive_mixed (hread : (k.owned s).on w = (.ok ws, v)) (hrunning : ∃ w ∈ ws, w.IsRunning)
    (hstopped : ∃ w ∈ ws, w.IsStopped) (c : Counts) :
    (k.handleActive s).on c w = (k.startAll none (ws.filter (·.IsStopped))).on c v := by
  have hsome : ¬ (Partition.ofList Workspace.status ws).allStopped = true := by
    obtain ⟨x, hx, hruns⟩ := hrunning
    exact fun hall => ((Partition.allStopped_iff ws).mp hall).1 x hx hruns
  have hfilled : ¬ ws.isEmpty = true := by
    obtain ⟨x, hx, -⟩ := hrunning
    exact fun hempty => List.ne_nil_of_mem hx (List.isEmpty_iff.mp hempty)
  unfold handleActive
  rw [Work.on_bind, Work.on_ofAct, hread, Work.next_ok]
  dsimp only
  rw [if_neg hfilled, if_neg hsome, if_pos ((Partition.isMixed_iff ws).mpr ⟨hrunning, hstopped⟩),
    Partition.stopped_ofList]

theorem handleActive_read (hread : (k.owned s).on w = (.ok ws, v)) (c : Counts) :
    ∃ ds outcome z, Pass.active.Answers ws ds outcome ∧ Changes k s ds v z ∧
      (k.handleActive s).on c w = ((outcome, tallyAll ds c), z) := by
  by_cases hmixed : (∃ w ∈ ws, w.IsRunning) ∧ ∃ w ∈ ws, w.IsStopped
  · rw [handleActive_mixed hread hmixed.1 hmixed.2]
    exact performs_startAll hmixed.1 hmixed.2 c v
  · unfold handleActive
    rw [Work.on_bind, Work.on_ofAct, hread, Work.next_ok]
    cases ws with
    | nil => exact performs_create c v
    | cons x xs =>
      have hws : x :: xs ≠ [] := List.cons_ne_nil x xs
      dsimp only
      rw [if_neg (by simp)]
      generalize x :: xs = ws at hws hmixed
      by_cases hstopped : ∃ w ∈ ws, w.IsStopped
      · have hnone : ∀ w ∈ ws, ¬ w.IsRunning := fun w hw hruns => hmixed ⟨⟨w, hw, hruns⟩, hstopped⟩
        rw [if_pos ((Partition.allStopped_iff ws).mpr ⟨hnone, hstopped⟩)]
        exact performs_deactivate hnone hstopped c v
      · rw [if_neg (fun h => hstopped ((Partition.allStopped_iff ws).mp h).2),
          if_neg (fun h => hmixed ((Partition.isMixed_iff ws).mp h))]
        push Not at hstopped
        exact performs_nothing hws hstopped c v

/-! ### All passes -/

theorem handle_read (hread : (k.owned s).on w = (.ok ws, v)) (p : Pass) (c : Counts) :
    ∃ ds outcome z, p.Answers ws ds outcome ∧ Changes k s ds v z ∧
      (k.handle p s).on c w = ((outcome, tallyAll ds c), z) := by
  cases p with
  | new => exact handleNew_read hread c
  | active => exact handleActive_read hread c
  | inactive => exact handleInactive_read hread c

/-! ## One step of a pass -/

variable {u : World σ τ} {outcome : Except Fault Unit}

/-- A report after one more handling that ended so. -/
def advanced (r : Report) (c : Counts) : Except Fault Unit → Report
  | .ok _ => { r with counts := c, processed := r.processed + 1 }
  | .error _ => { r with counts := c, failed := r.failed + 1 }

theorem step_rejected (h : (k.guard.isOpen s.circuitKey).on w = (true, u)) (r : Report) :
    (k.step r s).on w = ({ r with skipped := r.skipped + 1 }, u) := by
  unfold step
  rw [Effect.on_bind, h]
  rfl

theorem step_passed (h : (k.guard.isOpen s.circuitKey).on w = (false, u)) {r : Report}
    (hrun : (k.handle r.pass s).on r.counts u = ((outcome, c), v)) :
    (k.step r s).on w = (advanced r c outcome, ((k.guard.record s.circuitKey outcome).on v).2) := by
  unfold step
  rw [Effect.on_bind, h]
  simp only [Bool.false_eq_true, if_false]
  rw [Effect.on_bind, Work.run_on, hrun, Effect.on_bind]
  cases outcome with
  | ok _ => rfl
  | error e => rfl

end Keeper

end SessionKeeper

import Mathlib.Data.List.Chain
import SessionKeeper.Proofs.Pass.Lifecycle
import SessionKeeper.Proofs.Pass.Updates

/-!
# Stages do not flap

While the workspaces of a session stay as they are, the passes move the session in one direction only: out of the
active stage if its workspaces are stopped, into it if one runs.

* `Scene`, `Scene.counted` : fixed workspaces and records, and the workspaces that count for a session.
* `Check.Sees` : a check reads the scene.
* `Keeper.stageAfter`, `Keeper.Reflects` : the stages after some checks, and lists that follow them.
* `Drift` : a move of a pass, for some workspaces; two moves in a row begin with a new session.
* `Keeper.updates_chain` : the updates of a run are moves, one after the other.
* `Keeper.stages_steady` : how many updates there are, and which stages are final.
-/

namespace SessionKeeper

variable {σ τ : Type}

/-! ## Scenes -/

deriving instance DecidableEq for Workspace, WorkspaceRecord

/-- The workspaces that the provider lists, and the records that the registry keeps for each session. -/
structure Scene where
  workspaces : List Workspace
  records : String → List WorkspaceRecord

/-- The workspaces that count for a session. -/
def Scene.counted (k : Keeper τ) (x : Scene) (s : Session) : List Workspace :=
  if k.isSettled s x.workspaces then Keeper.candidates s x.workspaces
  else (Keeper.candidates s x.workspaces).filter (Keeper.counts s x.workspaces (x.records s.id))

theorem Scene.counted_congr {k : Keeper τ} {x : Scene} {s s' : Session} (h : s.id = s'.id) :
    x.counted k s = x.counted k s' := by
  unfold counted Keeper.isSettled Keeper.allExplicit Keeper.candidates Keeper.counts Keeper.sharesExplicitId
    Keeper.candidates Keeper.isExplicit
  rw [h]

namespace Check

variable [Timeline τ] [Surroundings σ τ] {k : Keeper τ} {t : Check σ τ} {x : Scene}

/-- What the check can list is the scene, and so is what it can look up. -/
def Sees (k : Keeper τ) (x : Scene) (t : Check σ τ) : Prop :=
  Yields (k.provider.workspaces.on (t.world k)).1 (fun all => all = x.workspaces) ∧
    (k.isSettled t.session x.workspaces = false →
      Yields ((k.registry.records t.session.id).on (k.provider.workspaces.on (t.world k)).2).1
        fun rs => rs = x.records t.session.id)

instance (k : Keeper τ) (x : Scene) (t : Check σ τ) : Decidable (t.Sees k x) :=
  inferInstanceAs (Decidable (Yields _ (fun all => all = x.workspaces) ∧
    (k.isSettled t.session x.workspaces = false → Yields _ fun rs => rs = x.records t.session.id)))

theorem Sees.counted (h : t.Sees k x) {ws : List Workspace} {v : World σ τ}
    (hread : (k.owned t.session).on (t.world k) = (.ok ws, v)) : ws = x.counted k t.session := by
  obtain ⟨hlists, hrecalls⟩ := h
  unfold Scene.counted
  rcases hlist : k.provider.workspaces.on (t.world k) with ⟨e | all, u⟩
  · rw [Keeper.owned_unlisted hlist] at hread
    cases hread
  · obtain rfl : all = x.workspaces := hlists all (by rw [hlist])
    cases hsettled : k.isSettled t.session x.workspaces with
    | true =>
      rw [Keeper.owned_settled hlist hsettled] at hread
      cases hread
      rw [if_pos rfl]
    | false =>
      have hlookup := hrecalls hsettled
      rw [hlist] at hlookup
      rcases hrecords : (k.registry.records t.session.id).on u with ⟨e | rs, z⟩
      · rw [Keeper.owned_unconfirmed hlist hsettled hrecords] at hread
        cases hread
      · obtain rfl : rs = x.records t.session.id := hlookup rs (by rw [hrecords])
        rw [Keeper.owned_confirmed hlist hsettled hrecords] at hread
        cases hread
        rw [if_neg Bool.false_ne_true]

end Check

/-! ## Moves -/

/-- A pass moves a session with these workspaces from one stage to another. -/
def Drift (ws : List Workspace) (a b : SessionStatus) : Prop :=
  ∃ p : Pass, a = p.status ∧ b = p.target ∧ p.Moves ws

namespace Drift

variable {ws : List Workspace} {a b c : SessionStatus} {us vs : List SessionStatus}

/-- Only a new session is moved twice: the other two moves go opposite ways, for workspaces that exclude each other. -/
theorem twice (hab : Drift ws a b) (hbc : Drift ws b c) : a = .pending := by
  obtain ⟨p, rfl, rfl, hp⟩ := hab
  obtain ⟨q, hq, rfl, hq'⟩ := hbc
  cases p with
  | new => rfl
  | active =>
    cases q with
    | inactive =>
      obtain ⟨y, hy, hruns⟩ := hq'
      exact absurd hruns (hp.1 y hy)
    | new => cases hq
    | active => cases hq
  | inactive =>
    cases q with
    | active =>
      obtain ⟨y, hy, hruns⟩ := hp
      exact absurd hruns (hq'.1 y hy)
    | new => cases hq
    | inactive => cases hq

theorem chain_short (h : List.IsChain (Drift ws) (a :: us)) (ha : a ≠ .pending) : us.length ≤ 1 := by
  cases us with
  | nil => exact Nat.zero_le 1
  | cons b us =>
    cases us with
    | nil => exact Nat.le_refl 1
    | cons c us =>
      obtain ⟨hab, hrest⟩ := List.isChain_cons_cons.mp h
      exact absurd (hab.twice (List.isChain_cons_cons.mp hrest).1) ha

theorem chain_new (h : List.IsChain (Drift ws) (.pending :: us)) :
    us = [] ∨ ∃ rest, us = .active :: rest ∧ rest.length ≤ 1 := by
  cases us with
  | nil => exact Or.inl rfl
  | cons b us =>
    obtain ⟨⟨p, hp, rfl, -⟩, hrest⟩ := List.isChain_cons_cons.mp h
    cases p with
    | new => exact Or.inr ⟨us, rfl, chain_short hrest nofun⟩
    | active => cases hp
    | inactive => cases hp

theorem chain_ends (h : List.IsChain (Drift ws) (a :: (us ++ vs))) (hend : ∀ b, ¬ Drift ws (us.getLast?.getD a) b) :
    vs = [] := by
  rw [← List.cons_append, List.isChain_append] at h
  obtain ⟨-, -, hnext⟩ := h
  cases vs with
  | nil => rfl
  | cons b vs =>
    have hdrift := hnext (us.getLast?.getD a) (by rw [List.getLast?_cons]; rfl) b rfl
    exact absurd hdrift (hend b)

theorem not_active (h : ∃ y ∈ ws, y.IsRunning) (b : SessionStatus) : ¬ Drift ws .active b := by
  rintro ⟨p, hp, -, hmoves⟩
  obtain ⟨y, hy, hruns⟩ := h
  cases p with
  | active => exact hmoves.1 y hy hruns
  | new => cases hp
  | inactive => cases hp

theorem not_inactive (h : ∀ y ∈ ws, ¬ y.IsRunning) (b : SessionStatus) : ¬ Drift ws .inactive b := by
  rintro ⟨p, hp, -, hmoves⟩
  cases p with
  | inactive =>
    obtain ⟨y, hy, hruns⟩ := hmoves
    exact h y hy hruns
  | new => cases hp
  | active => cases hp

end Drift

/-! ## Runs -/

/-- The pass may read the list: it names each session once, and each at the stage of the pass. -/
def Pass.Suits (p : Pass) (stage : String → SessionStatus) (ss : List Session) : Prop :=
  (ss.map (·.id)).Nodup ∧ ∀ s ∈ ss, stage s.id = p.status

instance (p : Pass) (stage : String → SessionStatus) : DecidablePred (p.Suits stage) := fun ss =>
  inferInstanceAs (Decidable ((ss.map (·.id)).Nodup ∧ ∀ s ∈ ss, stage s.id = p.status))

namespace Keeper

variable [Timeline τ] [Surroundings σ τ] {k : Keeper τ} {x : Scene} {w : World σ τ}
  {stage : String → SessionStatus} {s : Session}

/-- The updates that some checks put for the sessions of an id, in order. -/
def updatesOf (k : Keeper τ) (id : String) (ts : List (Check σ τ)) : List SessionStatus :=
  (ts.filter (·.session.id == id)).flatMap (·.updates k)

def stageAfter (k : Keeper τ) (stage : String → SessionStatus) (ts : List (Check σ τ)) (id : String) :
    SessionStatus := (k.updatesOf id ts).getLast?.getD (stage id)

/-- The lists that the passes of a run read follow the updates. -/
def Reflects (k : Keeper τ) : (String → SessionStatus) → List (Round σ) → World σ τ → Prop
  | _, [], _ => True
  | stage, r :: rs, w =>
    Yields ((k.registry.sessions r.pass.status).on (r.start w)).1 (r.pass.Suits stage) ∧
      Reflects k (k.stageAfter stage (k.checksOf r.pass (r.start w))) rs (k.afterPass r.pass (r.start w))

instance Reflects.decidable (k : Keeper τ) : (stage : String → SessionStatus) → (rs : List (Round σ)) →
    (w : World σ τ) → Decidable (k.Reflects stage rs w)
  | _, [], _ => isTrue trivial
  | stage, r :: rs, w =>
    have := Reflects.decidable k (k.stageAfter stage (k.checksOf r.pass (r.start w))) rs
      (k.afterPass r.pass (r.start w))
    inferInstanceAs (Decidable (Yields ((k.registry.sessions r.pass.status).on (r.start w)).1 (r.pass.Suits stage) ∧
      k.Reflects (k.stageAfter stage (k.checksOf r.pass (r.start w))) rs (k.afterPass r.pass (r.start w))))

theorem updatesOf_append (k : Keeper τ) (id : String) (ts ts' : List (Check σ τ)) :
    k.updatesOf id (ts ++ ts') = k.updatesOf id ts ++ k.updatesOf id ts' := by
  unfold updatesOf
  rw [List.filter_append, List.flatMap_append]

theorem updatesOf_cons (k : Keeper τ) (id : String) (t : Check σ τ) (ts : List (Check σ τ)) :
    k.updatesOf id (t :: ts) = (if t.session.id = id then t.updates k else []) ++ k.updatesOf id ts := by
  unfold updatesOf
  by_cases h : t.session.id = id
  · rw [List.filter_cons_of_pos (by simpa using h), List.flatMap_cons, if_pos h]
  · rw [List.filter_cons_of_neg (by simpa using h), if_neg h, List.nil_append]

theorem updatesOf_absent {r : Report} {ss : List Session} {id : String} (h : id ∉ ss.map (·.id)) :
    k.updatesOf id (k.checksFrom r ss w) = [] := by
  induction ss generalizing r w with
  | nil => rfl
  | cons s ss ih =>
    rw [List.map_cons, List.mem_cons, not_or] at h
    rw [checksFrom, updatesOf_cons, if_neg (Ne.symm h.1), ih h.2, List.append_nil]

theorem updatesOf_listed {r : Report} {ss : List Session} (h : (ss.map (·.id)).Nodup) (id : String) :
    k.updatesOf id (k.checksFrom r ss w) = [] ∨
      ∃ t ∈ k.checksFrom r ss w, t.session.id = id ∧ k.updatesOf id (k.checksFrom r ss w) = t.updates k := by
  induction ss generalizing r w with
  | nil => exact Or.inl rfl
  | cons s ss ih =>
    obtain ⟨hfresh, hrest⟩ := List.nodup_cons.mp h
    rw [checksFrom, updatesOf_cons]
    by_cases hid : s.id = id
    · rw [if_pos hid, updatesOf_absent (hid ▸ hfresh), List.append_nil]
      exact Or.inr ⟨_, List.mem_cons_self, hid, rfl⟩
    · rw [if_neg hid, List.nil_append]
      rcases ih hrest with hnone | ⟨t, ht, hsame, hupdates⟩
      · exact Or.inl hnone
      · exact Or.inr ⟨t, List.mem_cons_of_mem _ ht, hsame, hupdates⟩

theorem drift_of_check {t : Check σ τ} (hsees : t.Sees k x) (haccepts : t.Accepts k) :
    t.updates k = [] ∨ t.updates k = [t.report.pass.target] ∧
      Drift (x.counted k t.session) t.report.pass.status t.report.pass.target := by
  rcases t.updates_cases haccepts with hnone | ⟨hone, ws, v, hread, hmoves⟩
  · exact Or.inl hnone
  · rw [hsees.counted hread] at hmoves
    exact Or.inr ⟨hone, t.report.pass, rfl, rfl, hmoves⟩

/-- The updates of a pass to a session are none, or one move from the stage that the pass lists. -/
theorem updates_pass {p : Pass} (hlist : Yields ((k.registry.sessions p.status).on w).1 (p.Suits stage))
    (hsees : ∀ t ∈ k.checksOf p w, t.Sees k x) (haccepts : ∀ t ∈ k.checksOf p w, t.Accepts k) (s : Session) :
    k.updatesOf s.id (k.checksOf p w) = [] ∨
      ∃ b, k.updatesOf s.id (k.checksOf p w) = [b] ∧ Drift (x.counted k s) (stage s.id) b := by
  unfold checksOf at hsees haccepts ⊢
  rcases hsessions : (k.registry.sessions p.status).on w with ⟨e | ss, v⟩
  · exact Or.inl rfl
  · rw [hsessions] at hsees haccepts
    obtain ⟨hnodup, hstage⟩ := hlist ss (by rw [hsessions])
    have hlast := updatesOf_listed (k := k) (w := v) (r := { Report.empty p with sessions := ss.length }) hnodup s.id
    rcases hlast with hnone | ⟨t, ht, hid, hupdates⟩
    · exact Or.inl hnone
    · obtain ⟨hmem, hpass⟩ := of_mem_checksFrom ht
      have hlisted : stage s.id = t.report.pass.status := by
        rw [← hid, hpass]
        exact hstage t.session hmem
      rcases drift_of_check (hsees t ht) (haccepts t ht) with hnone | ⟨hone, hdrift⟩
      · exact Or.inl (hupdates.trans hnone)
      · rw [Scene.counted_congr hid, ← hlisted] at hdrift
        exact Or.inr ⟨_, hupdates.trans hone, hdrift⟩

/-- The updates of a run to a session are moves, one after the other, from its stage at the start. -/
theorem updates_chain {rs : List (Round σ)} (hreflects : k.Reflects stage rs w)
    (hsees : ∀ t ∈ k.checks rs w, t.Sees k x) (haccepts : ∀ t ∈ k.checks rs w, t.Accepts k) (s : Session) :
    List.IsChain (Drift (x.counted k s)) (stage s.id :: k.updatesOf s.id (k.checks rs w)) := by
  induction rs generalizing stage w with
  | nil => exact List.isChain_singleton _
  | cons r rs ih =>
    obtain ⟨hlist, hrest⟩ := hreflects
    rw [checks_cons] at hsees haccepts ⊢
    obtain ⟨hsees, hseesrest⟩ := List.forall_mem_append.mp hsees
    obtain ⟨haccepts, hacceptsrest⟩ := List.forall_mem_append.mp haccepts
    have hchain := ih hrest hseesrest hacceptsrest
    unfold stageAfter at hchain
    rw [updatesOf_append]
    rcases updates_pass hlist hsees haccepts s with hnone | ⟨b, hone, hdrift⟩
    · rw [hnone] at hchain ⊢
      exact hchain
    · rw [hone] at hchain ⊢
      exact List.isChain_cons_cons.mpr ⟨hdrift, hchain⟩

theorem checks_append (k : Keeper τ) (earlier later : List (Round σ)) (w : World σ τ) :
    k.checks (earlier ++ later) w = k.checks earlier w ++ k.checks later (k.afterRun earlier w) := by
  induction earlier generalizing w with
  | nil => rfl
  | cons r earlier ih => rw [List.cons_append, checks_cons, checks_cons, ih, List.append_assoc, afterRun]

/-- **Stages do not flap.** Let the workspaces and the records stay as they are, let every update be accepted, and
let the lists follow the updates. Then no run, whatever its passes, puts more than one update for a session that is
not new; for a new one it puts at most the active stage and one update more. A session that an active pass has handled
and found asleep ends as inactive, and a session that is active while a workspace of it runs stays so. -/
theorem stages_steady (k : Keeper τ) (x : Scene) (stage : String → SessionStatus) (rs : List (Round σ))
    (w : World σ τ) (hreflects : k.Reflects stage rs w) (hsees : ∀ t ∈ k.checks rs w, t.Sees k x)
    (haccepts : ∀ t ∈ k.checks rs w, t.Accepts k) (s : Session) :
    (stage s.id ≠ .pending → (k.updatesOf s.id (k.checks rs w)).length ≤ 1) ∧
    (stage s.id = .pending → k.updatesOf s.id (k.checks rs w) = [] ∨
      ∃ rest, k.updatesOf s.id (k.checks rs w) = .active :: rest ∧ rest.length ≤ 1) ∧
    (∀ t ∈ k.checks rs w, t.session.id = s.id → t.report.pass = .active → t.Processed k →
      (∀ y ∈ x.counted k s, ¬ y.IsRunning) → (∃ y ∈ x.counted k s, y.IsStopped) →
        k.stageAfter stage (k.checks rs w) s.id = .inactive) ∧
    (∀ earlier later, rs = earlier ++ later → k.stageAfter stage (k.checks earlier w) s.id = .active →
      (∃ y ∈ x.counted k s, y.IsRunning) → k.stageAfter stage (k.checks rs w) s.id = .active) := by
  have hchain := updates_chain hreflects hsees haccepts s
  refine ⟨Drift.chain_short hchain, fun hnew => ?_, fun t ht hid hpass hprocessed hasleep hstopped => ?_,
    fun earlier later hsplit hactive hruns => ?_⟩
  · rw [hnew] at hchain
    exact Drift.chain_new hchain
  · -- the check put the inactive stage, and no move leads on from there
    have hput : t.updates k = [.inactive] := by
      obtain ⟨ws, v, hread⟩ := hprocessed.read
      have hcounted : ws = x.counted k s := ((hsees t ht).counted hread).trans (Scene.counted_congr hid)
      have hmoves : t.report.pass.Moves ws := by
        rw [hpass, hcounted]
        exact ⟨hasleep, hstopped⟩
      rw [Check.updates_processed (haccepts t ht) hprocessed hread hmoves, hpass]
      rfl
    obtain ⟨before, after, hts⟩ := List.append_of_mem ht
    unfold stageAfter
    rw [hts, updatesOf_append, updatesOf_cons, if_pos hid, hput, ← List.append_assoc] at hchain ⊢
    have hnone : k.updatesOf s.id after = [] := by
      apply Drift.chain_ends hchain
      intro b
      rw [List.getLast?_append, List.getLast?_singleton]
      exact Drift.not_inactive hasleep b
    rw [hnone, List.append_nil, List.getLast?_append, List.getLast?_singleton]
    rfl
  · subst hsplit
    unfold stageAfter at hactive ⊢
    rw [checks_append, updatesOf_append] at hchain ⊢
    have hnone : k.updatesOf s.id (k.checks later (k.afterRun earlier w)) = [] := by
      apply Drift.chain_ends hchain
      rw [hactive]
      exact Drift.not_active hruns
    rw [hnone, List.append_nil]
    exact hactive

end Keeper

/-! ### A rehearsal -/

namespace Rehearsal

/-- A new session with a stopped workspace. The lists of the registry follow what is done in a new, an active, an
inactive and another active pass. -/
def asleep : Rehearsal :=
  let sessions (stage : SessionStatus) : Exchange :=
    answer 200 (.list [.object [("id", .text "a"), ("status", .text stage.text)]])
  let workspace : Json := .object [("id", .text "w"), ("name", .text "session-a"),
    ("latest_build", .object [("status", .text "stopped")])]
  { plain with
    routes := [
      ("GET /api/v1/sessions/status/PENDING", [sessions .pending]),
      ("GET /api/v1/sessions/status/ACTIVE", [sessions .active, answer 200 (.list [])]),
      ("GET /api/v1/sessions/status/INACTIVE", [sessions .inactive]),
      ("GET /api/v2/workspaces", [answer 200 (.list [workspace])]),
      ("*", [answer 200 .null])] }

def asleepScene : Scene :=
  ⟨[⟨"w", "session-a", "stopped", "unknown", "", "", "", "", none, none, none⟩], fun _ => []⟩

def asleepRounds : List (Round Rehearsal) := [⟨.new, id⟩, ⟨.active, id⟩, ⟨.inactive, id⟩, ⟨.active, id⟩]

end Rehearsal

namespace Keeper

/-- The session is made active, then inactive, and stays so. -/
theorem stages_steady_asleep :
    (∃ rest, confirming.updatesOf "a" (confirming.checks Rehearsal.asleepRounds Rehearsal.asleep.world) =
        .active :: rest ∧ rest.length ≤ 1) ∧
      confirming.stageAfter (fun _ => .pending) (confirming.checks Rehearsal.asleepRounds Rehearsal.asleep.world) "a" =
        .inactive := by
  have hrun : confirming.Reflects (fun _ => .pending) Rehearsal.asleepRounds Rehearsal.asleep.world ∧
      (∀ t ∈ confirming.checks Rehearsal.asleepRounds Rehearsal.asleep.world,
        t.Sees confirming Rehearsal.asleepScene ∧ t.Accepts confirming) ∧
      confirming.updatesOf "a" (confirming.checks Rehearsal.asleepRounds Rehearsal.asleep.world) ≠ [] ∧
      ∃ t ∈ confirming.checks Rehearsal.asleepRounds Rehearsal.asleep.world,
        t.session.id = "a" ∧ t.report.pass = .active ∧ t.Processed confirming := by
    decide +kernel
  have hcounted : (∀ y ∈ Rehearsal.asleepScene.counted confirming (.rehearsed "a"), ¬ y.IsRunning) ∧
      ∃ y ∈ Rehearsal.asleepScene.counted confirming (.rehearsed "a"), y.IsStopped := by
    decide +kernel
  obtain ⟨hreflects, hchecks, hsome, t, ht, hid, hpass, hprocessed⟩ := hrun
  obtain ⟨hasleep, hstopped⟩ := hcounted
  obtain ⟨-, hnew, hfinal, -⟩ := stages_steady confirming Rehearsal.asleepScene _ _ _ hreflects
    (fun t ht => (hchecks t ht).1) (fun t ht => (hchecks t ht).2) (.rehearsed "a")
  exact ⟨(hnew rfl).resolve_left hsome, hfinal t ht hid hpass hprocessed hasleep hstopped⟩

end Keeper

end SessionKeeper

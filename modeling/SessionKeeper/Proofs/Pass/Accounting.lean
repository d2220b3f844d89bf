import SessionKeeper.Proofs.Pass.Changes

/-!
# The account of a pass

A pass takes its sessions in order, each for itself: whatever becomes of one, the next one has its turn, and
the report counts what became of each.

* `Pass.Tallies`, `Pass.Answers.tallies` : what the handling of one session may add to the counts.
* `Verdict`, `Turn`, `Turn.Lawful` : the turn of one session, and what holds of it.
* `Report.Balanced` : how the counts of a report relate to the processed sessions.
* `Keeper.overSessions_accounting` : the turns and the report of a whole pass.
-/

namespace SessionKeeper

variable {σ τ : Type}

/-! ## Counts -/

def handled : Except Fault Unit → Nat
  | .ok _ => 1
  | .error _ => 0

/-- What the handling of one session may add to the counts. -/
def Pass.Tallies (outcome : Except Fault Unit) (c d : Counts) : Pass → Prop
  | .new => d.activated = c.activated + handled outcome
  | .inactive => d.created = c.created ∧ d.started = c.started ∧ d.deactivated = c.deactivated
  | .active => d.activated = c.activated ∧
      d.created + d.deactivated ≤ c.created + c.deactivated + handled outcome

theorem Pass.tallies_refl (p : Pass) (e : Fault) (c : Counts) : p.Tallies (.error e) c c := by
  cases p with
  | new => rfl
  | active => exact ⟨rfl, Nat.le_refl _⟩
  | inactive => exact ⟨rfl, rfl, rfl⟩

theorem tallyAll_start (ids : List Workspace) (started : List (Except Fault Unit)) (c : Counts) :
    let d := tallyAll (ids.zipWith (fun w o => .start w.id o) started) c
    d.created = c.created ∧ d.activated = c.activated ∧ d.deactivated = c.deactivated := by
  induction ids generalizing started c with
  | nil => exact ⟨rfl, rfl, rfl⟩
  | cons x ids ih =>
    cases started with
    | nil => exact ⟨rfl, rfl, rfl⟩
    | cons o started =>
      obtain ⟨hcreated, hactivated, hdeactivated⟩ := ih started ((Change.start x.id o).tally c)
      cases o with
      | ok _ => exact ⟨hcreated, hactivated, hdeactivated⟩
      | error e => exact ⟨hcreated, hactivated, hdeactivated⟩

theorem Pass.Answers.tallies {p : Pass} {ws : List Workspace} {ds : List Change} {outcome : Except Fault Unit}
    (h : p.Answers ws ds outcome) (c : Counts) : p.Tallies outcome c (tallyAll ds c) := by
  cases p with
  | new =>
    obtain ⟨howned, hbare⟩ := h
    by_cases hws : ws = []
    · rcases hbare hws with ⟨created, updated, -, rfl, rfl⟩ | ⟨e, -, rfl, rfl⟩
      · rcases created with e | _ | x <;> rcases updated with e' | y <;> rfl
      · rfl
    · obtain ⟨updated, rfl, rfl⟩ := howned hws
      rcases updated with e | x <;> rfl
  | inactive =>
    obtain ⟨hawake, hasleep⟩ := h
    by_cases hrunning : ∃ w ∈ ws, w.IsRunning
    · obtain ⟨updated, rfl, -⟩ := hawake hrunning
      rcases updated with e | x
      · exact ⟨rfl, rfl, rfl⟩
      · exact ⟨rfl, rfl, rfl⟩
    · push Not at hrunning
      obtain ⟨rfl, -⟩ := hasleep hrunning
      exact ⟨rfl, rfl, rfl⟩
  | active =>
    obtain ⟨hbare, hstopped, hmixed, hother⟩ := h
    by_cases hws : ws = []
    · obtain ⟨created, rfl, rfl⟩ := hbare hws
      rcases created with e | _ | x
      · exact ⟨rfl, Nat.le_refl _⟩
      · exact ⟨rfl, Nat.le_succ _⟩
      · exact ⟨rfl, Nat.le_of_eq (Nat.add_right_comm c.created 1 c.deactivated)⟩
    · by_cases hsome : ∃ w ∈ ws, w.IsStopped
      · by_cases hrunning : ∃ w ∈ ws, w.IsRunning
        · obtain ⟨started, rfl, -⟩ := hmixed hrunning hsome
          obtain ⟨hcreated, hactivated, hdeactivated⟩ := tallyAll_start _ started c
          exact ⟨hactivated, by rw [hcreated, hdeactivated]; omega⟩
        · push Not at hrunning
          obtain ⟨updated, rfl, rfl⟩ := hstopped hrunning hsome
          rcases updated with e | x
          · exact ⟨rfl, Nat.le_refl _⟩
          · exact ⟨rfl, Nat.le_refl _⟩
      · push Not at hsome
        obtain ⟨rfl, rfl⟩ := hother hws hsome
        exact ⟨rfl, Nat.le_succ _⟩

/-! ## The circuits of the sessions -/

theorem Change.not_touches_circuitKey (d : Change) (s s' : Session) : ¬ d.Touches s s'.circuitKey := by
  have hapart {front : String} (id : String) (hfront : front.toList.take 2 ≠ "se".toList)
      (hlong : 2 ≤ front.toList.length) : s'.circuitKey ≠ front ++ id := by
    intro h
    have hkey : s'.circuitKey.toList.take 2 = "se".toList := by
      rw [Session.circuitKey, String.toList_append]
      rfl
    rw [h, String.toList_append, List.take_append_of_le_length hlong] at hkey
    exact hfront hkey
  cases d with
  | create created =>
    rintro (h | h)
    · exact hapart s.id (by decide) (by decide) h
    · exact hapart s.id (by decide) (by decide) h
  | update status updated => exact fun h => hapart s.id (by decide) (by decide) h
  | start id started => exact fun h => hapart id (by decide) (by decide) h

namespace Keeper

variable [Timeline τ] [Surroundings σ τ] {k : Keeper τ} {w v u : World σ τ}

theorem handle_tallies (k : Keeper τ) (p : Pass) (s : Session) (c : Counts) (w : World σ τ) :
    p.Tallies ((k.handle p s).on c w).1.1 c ((k.handle p s).on c w).1.2 := by
  rcases hread : (k.owned s).on w with ⟨e | ws, v⟩
  · rw [handle_unread hread p c]
    exact p.tallies_refl e c
  · obtain ⟨ds, outcome, z, hanswer, -, hrun⟩ := handle_read hread p c
    rw [hrun]
    exact hanswer.tallies c

theorem find_handle (k : Keeper τ) (p : Pass) (s s' : Session) (c : Counts) (w : World σ τ) :
    ((k.handle p s).on c w).2.circuits.find s'.circuitKey = w.circuits.find s'.circuitKey := by
  have hreading : Advance ⟨fun _ => True, fun _ => False⟩ w ((k.owned s).on w).2 :=
    k.within_owned s (fun _ _ => trivial) w
  rcases hread : (k.owned s).on w with ⟨e | ws, v⟩
  · rw [hread] at hreading
    rw [handle_unread hread p c]
    exact hreading.circuits _ id
  · rw [hread] at hreading
    obtain ⟨ds, outcome, z, -, hchanges, hrun⟩ := handle_read hread p c
    rw [hrun]
    refine (hchanges.advance.circuits _ ?_).trans (hreading.circuits _ id)
    rintro ⟨d, -, htouches⟩
    exact d.not_touches_circuitKey s s' htouches

end Keeper

/-! ## Turns -/

/-- What became of a session. -/
inductive Verdict where
  | skipped
  | processed
  | failed
deriving DecidableEq

/-- The turn of a session in a pass. -/
structure Turn (σ τ : Type) where
  session : Session
  verdict : Verdict
  before : World σ τ
  after : World σ τ

/-- What holds of the turn of a session: it is skipped iff its circuit rejects it, and then nothing but the
question happens; otherwise it is handled, and its circuit learns how that went. -/
structure Turn.Lawful [Timeline τ] [Surroundings σ τ] (k : Keeper τ) (p : Pass) (t : Turn σ τ) : Prop where
  skipped_iff : t.verdict = .skipped ↔ ((k.guard.isOpen t.session.circuitKey).on t.before).1 = true
  skipped : t.verdict = .skipped → t.after = ((k.guard.isOpen t.session.circuitKey).on t.before).2
  handled : t.verdict ≠ .skipped → ∃ c,
    let run := (k.handle p t.session).on c ((k.guard.isOpen t.session.circuitKey).on t.before).2
    (t.verdict = .processed ↔ run.1.1 = .ok ()) ∧
      t.after = ((k.guard.record t.session.circuitKey run.1.1).on run.2).2
  processed : t.verdict = .processed → t.after.circuits.find t.session.circuitKey = none
  failed : t.verdict = .failed → ∃ c u, t.after.circuits.find t.session.circuitKey = some c ∧
    c.failures = t.before.circuits.failuresOf t.session.circuitKey + 1 ∧
    t.after = ((k.guard.fail t.session.circuitKey).on u).2 ∧ c.lastFailure = u.time

/-- Turns that follow one another between two worlds. -/
def Turns : World σ τ → List (Turn σ τ) → World σ τ → Prop
  | w, [], v => v = w
  | w, t :: ts, v => t.before = w ∧ Turns t.after ts v

/-! ## Reports -/

/-- How the counts of a report relate to the processed sessions. -/
def Report.Balanced (r : Report) : Prop :=
  match r.pass with
  | .new => r.counts.activated = r.processed
  | .inactive => r.counts.created = 0 ∧ r.counts.started = 0 ∧ r.counts.deactivated = 0
  | .active => r.counts.activated = 0 ∧ r.counts.created + r.counts.deactivated ≤ r.processed

/-- A report after some more turns. -/
structure Report.Follows (r : Report) (vs : List Verdict) (r' : Report) : Prop where
  pass : r'.pass = r.pass
  sessions : r'.sessions = r.sessions
  aborted : r'.aborted = r.aborted
  processed : r'.processed = r.processed + vs.count .processed
  skipped : r'.skipped = r.skipped + vs.count .skipped
  failed : r'.failed = r.failed + vs.count .failed
  balanced : r.Balanced → r'.Balanced

theorem Report.Follows.refl (r : Report) : r.Follows [] r := ⟨rfl, rfl, rfl, rfl, rfl, rfl, id⟩

theorem Report.Follows.trans {r r' r'' : Report} {vs vs' : List Verdict} (h : r.Follows vs r')
    (h' : r'.Follows vs' r'') : r.Follows (vs ++ vs') r'' where
  pass := h'.pass.trans h.pass
  sessions := h'.sessions.trans h.sessions
  aborted := h'.aborted.trans h.aborted
  processed := by rw [h'.processed, h.processed, List.count_append, Nat.add_assoc]
  skipped := by rw [h'.skipped, h.skipped, List.count_append, Nat.add_assoc]
  failed := by rw [h'.failed, h.failed, List.count_append, Nat.add_assoc]
  balanced := h'.balanced ∘ h.balanced

/-- The verdict on a handling that ended so. -/
def Verdict.of : Except Fault Unit → Verdict
  | .ok _ => processed
  | .error _ => failed

theorem Report.Balanced.advanced {r : Report} {d : Counts} {outcome : Except Fault Unit} (hr : r.Balanced)
    (h : r.pass.Tallies outcome r.counts d) : (Keeper.advanced r d outcome).Balanced := by
  rcases r with ⟨p, sessions, processed, skipped, failed, c, aborted⟩
  cases p with
  | new =>
    simp only [Balanced, Pass.Tallies] at hr h
    cases outcome with
    | ok _ => exact h.trans (congrArg (· + 1) hr)
    | error e => exact h.trans hr
  | inactive =>
    obtain ⟨hcreated, hstarted, hdeactivated⟩ := hr
    obtain ⟨hcreated', hstarted', hdeactivated'⟩ := h
    have hnone : d.created = 0 ∧ d.started = 0 ∧ d.deactivated = 0 :=
      ⟨hcreated'.trans hcreated, hstarted'.trans hstarted, hdeactivated'.trans hdeactivated⟩
    cases outcome with
    | ok _ => exact hnone
    | error e => exact hnone
  | active =>
    obtain ⟨hactivated, hless⟩ := hr
    obtain ⟨hactivated', hless'⟩ := h
    dsimp only at hless hactivated hactivated' hless'
    cases outcome with
    | ok _ => exact ⟨hactivated'.trans hactivated, Nat.le_trans hless' (Nat.succ_le_succ hless)⟩
    | error e => exact ⟨hactivated'.trans hactivated, Nat.le_trans hless' hless⟩

theorem Report.follows_advanced {r : Report} {d : Counts} {outcome : Except Fault Unit}
    (h : r.pass.Tallies outcome r.counts d) : r.Follows [.of outcome] (Keeper.advanced r d outcome) := by
  cases outcome with
  | ok _ => exact ⟨rfl, rfl, rfl, rfl, rfl, rfl, fun hr => hr.advanced h⟩
  | error e => exact ⟨rfl, rfl, rfl, rfl, rfl, rfl, fun hr => hr.advanced h⟩

theorem Verdict.count_all (vs : List Verdict) :
    vs.count .processed + vs.count .skipped + vs.count .failed = vs.length := by
  induction vs with
  | nil => rfl
  | cons v vs ih =>
    rw [List.count_cons, List.count_cons, List.count_cons, List.length_cons]
    cases v with
    | skipped => simp; omega
    | processed => simp; omega
    | failed => simp; omega

namespace Keeper

variable [Timeline τ] [Surroundings σ τ]

/-! ## One turn -/

theorem lawful_skipped {k : Keeper τ} {s : Session} {w u : World σ τ}
    (hask : (k.guard.isOpen s.circuitKey).on w = (true, u)) (p : Pass) :
    Turn.Lawful k p ⟨s, .skipped, w, u⟩ where
  skipped_iff := by simp [hask]
  skipped _ := by rw [hask]
  handled h := absurd rfl h
  processed h := nomatch h
  failed h := nomatch h

theorem lawful_handled {k : Keeper τ} {s : Session} {w u v : World σ τ} {p : Pass} {c d : Counts}
    {outcome : Except Fault Unit} (hask : (k.guard.isOpen s.circuitKey).on w = (false, u))
    (hrun : (k.handle p s).on c u = ((outcome, d), v)) :
    Turn.Lawful k p ⟨s, .of outcome, w, ((k.guard.record s.circuitKey outcome).on v).2⟩ where
  skipped_iff := by
    rw [hask]
    cases outcome <;> simp [Verdict.of]
  skipped h := by cases outcome <;> exact nomatch h
  handled _ := by
    refine ⟨c, ?_⟩
    rw [hask, hrun]
    refine ⟨?_, rfl⟩
    cases outcome <;> simp [Verdict.of]
  processed h := by
    cases outcome with
    | ok _ =>
      show (((Guard.succeed s.circuitKey).on v).2.circuits.find s.circuitKey) = none
      rw [Guard.find_succeed, if_pos rfl]
    | error e => exact nomatch h
  failed h := by
    cases outcome with
    | ok _ => exact nomatch h
    | error e =>
      -- neither the question nor the handling changes how many failures the circuit of the session counts
      have hsame : v.circuits.find s.circuitKey = u.circuits.find s.circuitKey := by
        have hfind := k.find_handle p s s c u
        rwa [hrun] at hfind
      have hasked : u.circuits.failuresOf s.circuitKey = w.circuits.failuresOf s.circuitKey := by
        have hcount := k.guard.failuresOf_isOpen s.circuitKey w
        rwa [hask] at hcount
      refine ⟨Circuits.worsened k.guard.rule v.time (v.circuits.find s.circuitKey), v, ?_, ?_, rfl, rfl⟩
      · show (((k.guard.fail s.circuitKey).on v).2.circuits.find s.circuitKey) = _
        rw [Guard.find_fail, if_pos rfl]
      · rw [← hasked, hsame]
        rfl

theorem step_turn (k : Keeper τ) (r : Report) (s : Session) (w : World σ τ) :
    ∃ verdict, Turn.Lawful k r.pass ⟨s, verdict, w, ((k.step r s).on w).2⟩ ∧
      r.Follows [verdict] ((k.step r s).on w).1 := by
  rcases hask : (k.guard.isOpen s.circuitKey).on w with ⟨rejected, u⟩
  cases rejected with
  | true =>
    rw [step_rejected hask]
    exact ⟨.skipped, lawful_skipped hask r.pass, ⟨rfl, rfl, rfl, rfl, rfl, rfl, id⟩⟩
  | false =>
    rcases hrun : (k.handle r.pass s).on r.counts u with ⟨⟨outcome, d⟩, v⟩
    rw [step_passed hask hrun]
    have htallies : r.pass.Tallies outcome r.counts d := by
      have h := k.handle_tallies r.pass s r.counts u
      rwa [hrun] at h
    exact ⟨.of outcome, lawful_handled hask hrun, Report.follows_advanced htallies⟩

/-! ## Whole passes -/

/-- The steps of a pass are turns of its sessions, in order. -/
theorem foldlM_turns (k : Keeper τ) (r : Report) (ss : List Session) (w : World σ τ) :
    ∃ ts : List (Turn σ τ), ts.map (·.session) = ss ∧ (∀ t ∈ ts, t.Lawful k r.pass) ∧
      Turns w ts ((ss.foldlM k.step r : Effect σ τ Report).on w).2 ∧
      r.Follows (ts.map (·.verdict)) ((ss.foldlM k.step r : Effect σ τ Report).on w).1 := by
  induction ss generalizing r w with
  | nil => exact ⟨[], rfl, by simp, rfl, .refl r⟩
  | cons s ss ih =>
    obtain ⟨verdict, hlawful, hfollows⟩ := k.step_turn r s w
    obtain ⟨ts, hsessions, hrest, hturns, hreport⟩ := ih ((k.step r s).on w).1 ((k.step r s).on w).2
    rw [hfollows.pass] at hrest
    rw [List.foldlM_cons, Effect.on_bind]
    refine ⟨⟨s, verdict, w, ((k.step r s).on w).2⟩ :: ts, ?_, ?_, ⟨rfl, hturns⟩, hfollows.trans hreport⟩
    · rw [List.map_cons, hsessions]
    · exact List.forall_mem_cons.mpr ⟨hlawful, hrest⟩

/-- What listing the sessions of a pass may do: it sends the two calls for the list, and no more. -/
def listing (k : Keeper τ) (p : Pass) : Scope where
  sends q := (k.registry.listCall p.status).Carries q ∨ (k.registry.listFallbackCall p.status).Carries q
  touches _ := False

/-- **The account of a pass.** Listing the sessions sends nothing but that; when it fails, the report says
so and nothing else is done. Otherwise the listed sessions have their turns in order, each once, whatever
became of those before, and the report counts the verdicts. -/
theorem overSessions_accounting (k : Keeper τ) (p : Pass) (w : World σ τ) :
    Advance (k.listing p) w ((k.registry.sessions p.status).on w).2 ∧
    (∀ e v, (k.registry.sessions p.status).on w = (.error e, v) →
      (k.overSessions p).on w = ({ Report.empty p with aborted := some e.message }, v)) ∧
    (∀ ss v, (k.registry.sessions p.status).on w = (.ok ss, v) →
      ∃ (ts : List (Turn σ τ)) (r : Report) (z : World σ τ), (k.overSessions p).on w = (r, z) ∧
        ts.map (·.session) = ss ∧ (∀ t ∈ ts, t.Lawful k p) ∧ Turns v ts z ∧
        r.pass = p ∧ r.aborted = none ∧ r.sessions = ss.length ∧
        r.processed = (ts.map (·.verdict)).count .processed ∧
        r.skipped = (ts.map (·.verdict)).count .skipped ∧
        r.failed = (ts.map (·.verdict)).count .failed ∧
        r.sessions = r.processed + r.skipped + r.failed ∧ r.Balanced) := by
  refine ⟨k.registry.within_sessions p.status (fun _ => Or.inl) (fun _ => Or.inr) w, fun e v hlist => ?_,
    fun ss v hlist => ?_⟩
  · unfold overSessions
    rw [Effect.on_bind, Act.outcome_on, hlist]
    rfl
  · have hrun : (k.overSessions p).on w =
        (ss.foldlM k.step { Report.empty p with sessions := ss.length } : Effect σ τ Report).on v := by
      unfold overSessions
      rw [Effect.on_bind, Act.outcome_on, hlist]
      rfl
    obtain ⟨ts, hsessions, hlawful, hturns, hreport⟩ :=
      k.foldlM_turns { Report.empty p with sessions := ss.length } ss v
    rw [← hrun] at hturns hreport
    rcases hend : (k.overSessions p).on w with ⟨r, z⟩
    rw [hend] at hturns hreport
    have hprocessed : r.processed = (ts.map (·.verdict)).count .processed :=
      hreport.processed.trans (Nat.zero_add _)
    have hskipped : r.skipped = (ts.map (·.verdict)).count .skipped := hreport.skipped.trans (Nat.zero_add _)
    have hfailed : r.failed = (ts.map (·.verdict)).count .failed := hreport.failed.trans (Nat.zero_add _)
    have hlength : (ts.map (·.verdict)).length = ss.length := by
      rw [← hsessions, List.length_map, List.length_map]
    refine ⟨ts, r, z, rfl, hsessions, hlawful, hturns, hreport.pass, hreport.aborted, hreport.sessions, hprocessed,
      hskipped, hfailed, ?_, hreport.balanced ?_⟩
    · rw [hprocessed, hskipped, hfailed, hreport.sessions, Verdict.count_all, hlength]
    · cases p with
      | new => rfl
      | active => exact ⟨rfl, Nat.le_refl _⟩
      | inactive => exact ⟨rfl, rfl, rfl⟩

end Keeper

end SessionKeeper

import SessionKeeper.Json.Print
import SessionKeeper.Pass.Desk
import SessionKeeper.Proofs.Pass.Changes
import SessionKeeper.Rehearsal

/-!
# Runs of passes

A run is a list of rounds: something happens outside, and then a pass checks its sessions one after another,
each in the world that the check before it left.

* `Check` : the step of a pass for a session, and the world in which it is taken.
* `Round` : a pass, and what happens outside before it.
* `Keeper.checksOf`, `Keeper.checks`, `Keeper.afterRun` : the checks of a pass, and of a run, and the world after it.
* `Check.world`, `Check.after` : the world in which the session is handled, and the one after the check.
* `Keeper.rehearsed`, `Keeper.confirming`, `Session.rehearsed`, `Rehearsal.world`, `Rehearsal.answer` : keepers, a
  session, a first world and answers for rehearsals.
* `Keeper.afterPass_eq`, `Keeper.overSessions_on`, `Keeper.foldlM_step_on` : the checks are what the passes do.
-/

namespace SessionKeeper

variable {σ τ : Type}

/-- The step of a pass for a session, in a world. -/
structure Check (σ τ : Type) where
  report : Report
  session : Session
  before : World σ τ

/-- A pass, and what happens outside before it. -/
structure Round (σ : Type) where
  pass : Pass
  meanwhile : σ → σ

def Round.start (r : Round σ) (w : World σ τ) : World σ τ := { w with outside := r.meanwhile w.outside }

theorem Round.start_id (p : Pass) (w : World σ τ) : (⟨p, id⟩ : Round σ).start w = w := rfl

namespace Keeper

variable [Timeline τ] [Surroundings σ τ]

/-- The checks of some sessions, from a report and a world on. -/
def checksFrom (k : Keeper τ) : Report → List Session → World σ τ → List (Check σ τ)
  | _, [], _ => []
  | r, s :: ss, w => ⟨r, s, w⟩ :: checksFrom k ((k.step r s).on w).1 ss ((k.step r s).on w).2

/-- The checks of a pass: none if the sessions cannot be listed. -/
def checksOf (k : Keeper τ) (p : Pass) (w : World σ τ) : List (Check σ τ) :=
  match (k.registry.sessions p.status).on w with
  | (.ok ss, v) => k.checksFrom { Report.empty p with sessions := ss.length } ss v
  | (.error _, _) => []

def afterPass (k : Keeper τ) (p : Pass) (w : World σ τ) : World σ τ :=
  (((k.runPass p).run Desk.empty).on w).2

def checks (k : Keeper τ) : List (Round σ) → World σ τ → List (Check σ τ)
  | [], _ => []
  | r :: rs, w => k.checksOf r.pass (r.start w) ++ checks k rs (k.afterPass r.pass (r.start w))

def afterRun (k : Keeper τ) : List (Round σ) → World σ τ → World σ τ
  | [], w => w
  | r :: rs, w => afterRun k rs (k.afterPass r.pass (r.start w))

theorem checks_cons (k : Keeper τ) (r : Round σ) (rs : List (Round σ)) (w : World σ τ) :
    k.checks (r :: rs) w = k.checksOf r.pass (r.start w) ++ k.checks rs (k.afterPass r.pass (r.start w)) := rfl

end Keeper

namespace Check

variable [Timeline τ] [Surroundings σ τ]

/-- The world in which the session is handled if its circuit lets it through. -/
def world (k : Keeper τ) (t : Check σ τ) : World σ τ := ((k.guard.isOpen t.session.circuitKey).on t.before).2

def isRejected (k : Keeper τ) (t : Check σ τ) : Bool := ((k.guard.isOpen t.session.circuitKey).on t.before).1

def after (k : Keeper τ) (t : Check σ τ) : World σ τ := ((k.step t.report t.session).on t.before).2

end Check

/-- A keeper of services at fixed addresses; records are asked about exactly if they are written. -/
def Keeper.rehearsed (g : Guard Number) (mirrors : Bool) : Keeper Number :=
  let registry : Registry Number := ⟨"http://r/api/v1", g⟩
  let provider : Provider := ⟨"http://p/api/v2", ⟨"http://p/api/v2/users/me/tokens"⟩⟩
  ⟨registry, provider, ⟨provider, registry, g, "house", mirrors⟩, g, mirrors⟩

/-- A keeper that writes records and asks about them, with circuits that open at the fifth failure for a minute. -/
def Keeper.confirming : Keeper Number := .rehearsed ⟨⟨5, .integer 60⟩, none⟩ true

def Session.rehearsed (id : String) : Session := ⟨id, "alpha", .active, [], none, none⟩

def Rehearsal.answer (status : Int) (j : Json) : Exchange := .answered ⟨status, j.print.toUTF8.toList, none⟩

def Rehearsal.world (script : Rehearsal) : World Rehearsal Number := ⟨script, [], ⟨none, none⟩, []⟩

namespace Keeper

variable [Timeline τ] [Surroundings σ τ] {k : Keeper τ} {w v : World σ τ}

/-! ## The checks are what the passes do -/

theorem afterPass_eq (k : Keeper τ) (p : Pass) (w : World σ τ) :
    k.afterPass p w = (k.guard.prune.on ((k.overSessions p).on w).2).2 := rfl

theorem overSessions_on {ss : List Session} (p : Pass) (h : (k.registry.sessions p.status).on w = (.ok ss, v)) :
    (k.overSessions p).on w =
      (ss.foldlM k.step { Report.empty p with sessions := ss.length } : Effect σ τ Report).on v := by
  unfold overSessions
  rw [Effect.on_bind, Act.outcome_on, h]
  rfl

theorem overSessions_unlisted {e : Fault} (p : Pass) (h : (k.registry.sessions p.status).on w = (.error e, v)) :
    (k.overSessions p).on w = ({ Report.empty p with aborted := some e.message }, v) := by
  unfold overSessions
  rw [Effect.on_bind, Act.outcome_on, h]
  rfl

theorem foldlM_step_on (k : Keeper τ) (r : Report) (s : Session) (ss : List Session) (w : World σ τ) :
    ((s :: ss).foldlM k.step r : Effect σ τ Report).on w =
      (ss.foldlM k.step ((k.step r s).on w).1 : Effect σ τ Report).on (Check.after k ⟨r, s, w⟩) := by
  rw [List.foldlM_cons, Effect.on_bind]
  rfl

theorem pass_step (k : Keeper τ) (r : Report) (s : Session) (w : World σ τ) : ((k.step r s).on w).1.pass = r.pass := by
  rcases hask : (k.guard.isOpen s.circuitKey).on w with ⟨rejected, u⟩
  cases rejected with
  | true => rw [step_rejected hask]
  | false =>
    rcases hrun : (k.handle r.pass s).on r.counts u with ⟨⟨outcome, c⟩, v⟩
    rw [step_passed hask hrun]
    cases outcome <;> rfl

end Keeper

end SessionKeeper

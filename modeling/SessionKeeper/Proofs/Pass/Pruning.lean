import Mathlib.Algebra.Order.Ring.Int
import Mathlib.Tactic.Linarith
import SessionKeeper.Proofs.Pass.Interleaving

/-!
# Quiet circuits are forgotten

After each pass the keys whose last failure lies ten reset timeouts back are forgotten. Where points in time are added
and compared exactly, that changes no answer: an open circuit that is forgotten would have let the next call through.

* `Timeline.IsExact` : the questions about points in time are answered by exact arithmetic.
* `Circuits.find_prune_of_some`, `Circuits.prune_prune`, `Circuits.staleCount_eq` : which entries pruning takes away.
* `Circuits.ask_prune` : the answers before and after it.
* `Guard.Prunes`, `Guard.Swept` : what pruning does, and a world in which it was just done.
* `Guard.stale_forgotten` : pruning takes away exactly the stale entries, and every pass that runs ends with it.
-/

namespace SessionKeeper

variable {σ τ : Type} [Timeline τ]

/-! ## Exact arithmetic -/

/-- The questions about points in time are answered by exact arithmetic. -/
structure Timeline.IsExact (τ : Type) [Timeline τ] [CommRing τ] [LinearOrder τ] : Prop where
  elapsed_iff : ∀ span since now : τ, elapsed span since now = true ↔ span ≤ now - since
  outdated_iff : ∀ span since now : τ, outdated span since now = true ↔ since ≤ now - 10 * span

theorem Timeline.isExact_ofArithmetic (τ : Type) [CommRing τ] [LinearOrder τ] :
    @IsExact τ (.ofArithmetic) _ _ :=
  letI : Timeline τ := .ofArithmetic
  { elapsed_iff := fun span since now => decide_eq_true_iff
    outdated_iff := fun span since now => by rw [mul_comm 10 span]; exact decide_eq_true_iff }

/-- What lies ten reset timeouts back has waited for one. -/
theorem Timeline.IsExact.elapsed_of_outdated [CommRing τ] [LinearOrder τ] [IsStrictOrderedRing τ]
    (h : Timeline.IsExact τ) {span since now : τ} (hspan : 0 < span) (hold : Timeline.outdated span since now = true) :
    Timeline.elapsed span since now = true := by
  rw [h.elapsed_iff]
  have hback : since ≤ now - 10 * span := (h.outdated_iff span since now).mp hold
  linarith

/-! ## Entries -/

namespace Circuits

variable {cs : Circuits τ} {rule : CircuitRule τ} {now : τ} {key : String} {c : Circuit τ}

omit [Timeline τ] in
theorem Distinct.find_of_mem (h : Distinct cs) {e : String × Circuit τ} (he : e ∈ cs) : cs.find e.1 = some e.2 := by
  induction cs with
  | nil => cases he
  | cons d cs ih =>
    obtain ⟨hfresh, hrest⟩ := List.nodup_cons.mp h
    rw [find_cons]
    rcases List.mem_cons.mp he with rfl | he
    · rw [if_pos rfl]
    · have hother : d.1 ≠ e.1 := fun hkey => hfresh (List.mem_map.mpr ⟨e, he, hkey.symm⟩)
      rw [if_neg hother, ih hrest he]

theorem mem_prune {e : String × Circuit τ} :
    e ∈ cs.prune rule now ↔ e ∈ cs ∧ Timeline.outdated rule.resetTimeout e.2.lastFailure now = false := by
  simp [prune, isStale]

theorem find_prune_of_some (h : Distinct cs) (rule : CircuitRule τ) (now : τ) (hc : cs.find key = some c) :
    (cs.prune rule now).find key =
      if Timeline.outdated rule.resetTimeout c.lastFailure now then none else some c := by
  rw [find_prune h, hc, Option.filter_some]
  cases Timeline.outdated rule.resetTimeout c.lastFailure now <;> rfl

theorem find_prune_of_none (h : Distinct cs) (rule : CircuitRule τ) (now : τ) (hnone : cs.find key = none) :
    (cs.prune rule now).find key = none := by
  rw [find_prune h, hnone]
  rfl

theorem prune_prune (cs : Circuits τ) (rule : CircuitRule τ) (now : τ) :
    (cs.prune rule now).prune rule now = cs.prune rule now := by
  simp [prune, List.filter_filter]

theorem staleCount_prune (cs : Circuits τ) (rule : CircuitRule τ) (now : τ) :
    (cs.prune rule now).staleCount rule now = 0 := by
  simp [prune, staleCount, List.filter_filter]

theorem staleCount_eq (h : Distinct cs) (rule : CircuitRule τ) (now : τ) :
    cs.staleCount rule now = ((cs.map (·.1)).filter fun key => ((cs.prune rule now).find key).isNone).length := by
  rw [List.filter_map, List.length_map, staleCount]
  congr 1
  refine List.filter_congr fun e he => ?_
  rw [Function.comp_apply, find_prune_of_some h rule now (h.find_of_mem he), isStale]
  cases Timeline.outdated rule.resetTimeout e.2.lastFailure now <;> rfl

variable [CommRing τ] [LinearOrder τ] [IsStrictOrderedRing τ]

/-- A question about a key that is not half open has the same answer after pruning. -/
theorem ask_prune (hexact : Timeline.IsExact τ) (hreset : 0 < rule.resetTimeout) (h : Distinct cs)
    (hphase : cs.phaseOf key ≠ .halfOpen) :
    ((cs.prune rule now).ask rule key now).1 = (cs.ask rule key now).1 := by
  rw [ask_fst, ask_fst]
  cases hc : cs.find key with
  | none => rw [find_prune_of_none h rule now hc]
  | some c =>
    rw [find_prune_of_some h rule now hc]
    split_ifs with hold
    · have hpasses : c.rejects rule now = false := by
        unfold phaseOf at hphase
        rw [hc] at hphase
        unfold Circuit.rejects
        cases hp : c.phase with
        | closed => rfl
        | halfOpen => exact absurd hp hphase
        | opened => rw [hexact.elapsed_of_outdated hreset hold, Bool.not_true]
      rw [Option.any_some, hpasses]
      rfl
    · rfl

end Circuits

/-! ## Pruning -/

namespace Guard

variable [Surroundings σ τ]

@[simp] theorem journal_prune (g : Guard τ) (w : World σ τ) :
    (g.prune.on w).2.journal = .pruned w.time :: w.journal := rfl

theorem prune_fst (g : Guard τ) (w : World σ τ) : (g.prune.on w).1 = w.circuits.staleCount g.rule w.time := rfl

variable [CommRing τ] [LinearOrder τ]

/-- Pruning at the time of the clock: exactly the keys whose last failure lies ten reset timeouts back are forgotten,
and they are counted; the other entries stay as they are and where they are, pruning once more at that time does
nothing, and unless a key is half open a question at that time is answered as before. -/
structure Prunes (g : Guard τ) (w : World σ τ) (n : Nat) (v : World σ τ) : Prop where
  forgotten : ∀ key c, w.circuits.find key = some c →
    (v.circuits.find key = none ↔ c.lastFailure ≤ w.time - 10 * g.rule.resetTimeout)
  others : ∀ key, v.circuits.find key ≠ none → v.circuits.find key = w.circuits.find key
  order : v.circuits.Sublist w.circuits
  counted : n = ((w.circuits.map (·.1)).filter fun key => (v.circuits.find key).isNone).length
  again : ∀ u : World σ τ, u.circuits = v.circuits → u.time = w.time →
    (g.prune.on u).1 = 0 ∧ (g.prune.on u).2.circuits = v.circuits
  answers : ∀ u : World σ τ, u.circuits = v.circuits → u.time = w.time → ∀ key, w.circuits.phaseOf key ≠ .halfOpen →
    ((g.isOpen key).on u).1 = ((g.isOpen key).on w).1

/-- Circuits were just pruned, and no last failure lies ten reset timeouts back. -/
def Swept (g : Guard τ) (v : World σ τ) : Prop :=
  ∃ now, v.journal.head? = some (.pruned now) ∧ ∀ e ∈ v.circuits, now - e.2.lastFailure < 10 * g.rule.resetTimeout

variable [IsStrictOrderedRing τ]

theorem prunes_prune (hexact : Timeline.IsExact τ) {g : Guard τ} (hreset : 0 < g.rule.resetTimeout) {w : World σ τ}
    (hdistinct : w.circuits.Distinct) : g.Prunes w (g.prune.on w).1 (g.prune.on w).2 where
  forgotten key c hc := by
    rw [circuits_prune, Circuits.find_prune_of_some hdistinct g.rule w.time hc, ← hexact.outdated_iff]
    simp
  others key hkept := by
    rw [circuits_prune] at hkept ⊢
    cases hc : w.circuits.find key with
    | none => exact absurd (Circuits.find_prune_of_none hdistinct g.rule w.time hc) hkept
    | some c =>
      rw [Circuits.find_prune_of_some hdistinct g.rule w.time hc] at hkept ⊢
      split_ifs at hkept ⊢
      · exact absurd rfl hkept
      · rfl
  order := List.filter_sublist
  counted := Circuits.staleCount_eq hdistinct g.rule w.time
  again u hsame htime := by
    rw [prune_fst, circuits_prune, hsame, htime, circuits_prune]
    exact ⟨Circuits.staleCount_prune _ _ _, Circuits.prune_prune _ _ _⟩
  answers u hsame htime key hphase := by
    rw [isOpen_fst, isOpen_fst, hsame, htime, ← Circuits.ask_fst, ← Circuits.ask_fst]
    exact Circuits.ask_prune hexact hreset hdistinct hphase

theorem swept_prune (hexact : Timeline.IsExact τ) (g : Guard τ) (w : World σ τ) : g.Swept (g.prune.on w).2 := by
  refine ⟨w.time, rfl, fun e he => ?_⟩
  obtain ⟨-, hyoung⟩ := Circuits.mem_prune.mp he
  have hlate : ¬ e.2.lastFailure ≤ w.time - 10 * g.rule.resetTimeout := by
    rw [← hexact.outdated_iff]
    exact Bool.eq_false_iff.mp hyoung
  linarith

end Guard

/-! ## Passes -/

section

variable [Surroundings σ τ] {k : Keeper τ}

theorem Keeper.afterStep_returned {p : Pass} {g : Progress} {d d' : Desk} {w v : World σ τ} {r : Report}
    (hstep : k.afterStep p g d w = ((.returned r, d'), v)) (hunder : g ≠ .returned r) :
    v = (k.guard.prune.on w).2 := by
  have hkind := k.afterStep_step p g d w
  rw [hstep] at hkind
  cases hkind with
  | prune =>
    have hreleased : k.afterStep p (.released r) d' w = ((.returned r, d'), (k.guard.prune.on w).2) := rfl
    rw [hreleased] at hstep
    exact (congrArg Prod.snd hstep).symm
  | idle => exact absurd rfl hunder

variable [CommRing τ] [LinearOrder τ] [IsStrictOrderedRing τ]

theorem Keeper.swept_runPass (hexact : Timeline.IsExact τ) (k : Keeper τ) {p : Pass} {d : Desk} (w : World σ τ)
    (hfree : d.isRunning p = false) : k.guard.Swept (((k.runPass p).run d).on w).2 := by
  rw [runPass_free hfree rfl]
  exact Guard.swept_prune hexact k.guard _

/-- The turn with which a call returns leaves the circuits pruned, whatever other calls did in between. -/
theorem Hall.swept_slot (hexact : Timeline.IsExact τ) (k : Keeper τ) {h : Hall σ τ} {x : Slot σ} {c : Caller}
    {r : Report} (hc : h.callers[x.call]? = some c) (hunder : c.progress ≠ .returned r)
    (hreturned : (h.slot k x).callers[x.call]? = some ⟨c.pass, .returned r⟩) : k.guard.Swept (h.slot k x).world := by
  rcases hstep : k.afterStep c.pass c.progress h.desk (h.lapse x.meanwhile).world with ⟨⟨g, d⟩, v⟩
  rw [callers_slot_own hc hstep] at hreturned
  obtain rfl : g = .returned r := by simpa using hreturned
  rw [slot_some hc hstep, Keeper.afterStep_returned hstep hunder]
  exact Guard.swept_prune hexact k.guard _

/-- **Pruning forgets exactly the stale circuits.** Where the clock is exact, pruning takes away the entries whose last
failure lies ten reset timeouts back and no others, counts them, and changes the answer to no question about a key that
is not half open. Every pass that is not refused ends with it, also one that takes its turns among others and one that
could not list its sessions: then no last failure is ten reset timeouts old. -/
theorem Guard.stale_forgotten (hexact : Timeline.IsExact τ) {g : Guard τ} (hreset : 0 < g.rule.resetTimeout) :
    (∀ w : World σ τ, w.circuits.Distinct → g.Prunes w (g.prune.on w).1 (g.prune.on w).2) ∧
    (∀ (k : Keeper τ) (p : Pass) (d : Desk) (w : World σ τ), k.guard = g → d.isRunning p = false →
      g.Swept (((k.runPass p).run d).on w).2) ∧
    ∀ (k : Keeper τ) (h : Hall σ τ) (x : Slot σ) (c : Caller) (r : Report), k.guard = g →
      h.callers[x.call]? = some c → c.progress ≠ .returned r →
        (h.slot k x).callers[x.call]? = some ⟨c.pass, .returned r⟩ → g.Swept (h.slot k x).world := by
  refine ⟨fun w hdistinct => prunes_prune hexact hreset hdistinct, ?_, ?_⟩
  · rintro k p d w rfl hfree
    exact k.swept_runPass hexact w hfree
  · rintro k h x c r rfl hc hunder hreturned
    exact Hall.swept_slot hexact k hc hunder hreturned

end

/-! ## A run -/

/-- A clock of whole seconds, beside which nobody answers. -/
structure Hourglass where
  seconds : Int

instance : Timeline Int := .ofArithmetic

instance : Surroundings Hourglass Int where
  exchange _ s := (.lost "", s)
  now s := (s.seconds, s)
  sleep _ s := s
  chance s := (0.0, s)
  milliseconds s := (0, s)
  close s := s

/-- Six hundred seconds after the fifth failure of a key it is forgotten, and another one that failed a second later
stays. So it is after a pass that could not even list its sessions. -/
theorem Guard.stale_forgotten_minute :
    let g : Guard Int := ⟨⟨5, 60⟩, none⟩
    let k : Keeper Int :=
      let registry : Registry Int := ⟨"http://r/api/v1", g⟩
      let provider : Provider := ⟨"http://p/api/v2", ⟨"http://p/api/v2/users/me/tokens"⟩⟩
      ⟨registry, provider, ⟨provider, registry, g, "house", true⟩, g, true⟩
    let w : World Hourglass Int :=
      ⟨⟨1000⟩, [("a", ⟨5, 400, .opened⟩), ("b", ⟨5, 401, .halfOpen⟩)], ⟨none, none⟩, []⟩
    (0 : Int) < g.rule.resetTimeout ∧ w.circuits.Distinct ∧
      g.Prunes w (g.prune.on w).1 (g.prune.on w).2 ∧ (g.prune.on w).2.circuits.find "a" = none ∧
      (g.prune.on w).2.circuits.find "b" = some ⟨5, 401, .halfOpen⟩ ∧
      g.Swept (((k.runPass .new).run Desk.empty).on w).2 := by
  intro g k w
  have hexact : Timeline.IsExact Int := Timeline.isExact_ofArithmetic Int
  have hreset : (0 : Int) < g.rule.resetTimeout := by decide
  have hdistinct : w.circuits.Distinct := by simp [w, Circuits.Distinct]
  obtain ⟨hprunes, hpass, -⟩ := stale_forgotten (σ := Hourglass) hexact hreset
  have hprune := hprunes w hdistinct
  refine ⟨hreset, hdistinct, hprune, ?_, ?_, hpass k .new Desk.empty w rfl rfl⟩
  · exact (hprune.forgotten "a" ⟨5, 400, .opened⟩ rfl).mpr (by decide)
  · have hkept : (g.prune.on w).2.circuits.find "b" ≠ none := fun hnone =>
      absurd ((hprune.forgotten "b" ⟨5, 401, .halfOpen⟩ rfl).mp hnone) (by decide)
    exact hprune.others "b" hkept

end SessionKeeper

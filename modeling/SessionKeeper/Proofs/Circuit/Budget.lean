import SessionKeeper.Proofs.Circuit.Retry

/-!
# The budget of a circuit

A key that only fails has a budget of failures. Beyond it a call is let through only when the reset timeout
has passed since the failure before it.

* `Attempt` : a call that the circuit of a key let through.
* `Guard.attemptsFrom`, `Guard.attemptsOf` : the attempts of a retried call; they are the calls of its trace.
* `Guard.budget`, `Guard.Spaced` : the budget, and attempts that wait for the reset timeout beyond it.
* `Guard.Ledger` : the entry of a key after some failed attempts; a question and a failure keep it.
* `Guard.Ledger.attemptsFrom`, `Guard.Ledger.uses` : so do a retried call, and retried calls in turn.
* `Guard.called_of_mem_attemptsFrom`, `Guard.spares_attemptsOf` : attempts are calls, and those of a call that leaves
  the entry of the key alone leave it alone.
-/

namespace SessionKeeper

variable {σ τ α : Type}

/-! ## Attempts -/

/-- A call that the circuit of a key let through: the world in which the circuit was asked, what came of the
call, and the world in which that was recorded. -/
structure Attempt (σ τ α : Type) where
  asked : World σ τ
  outcome : Except Fault α
  ended : World σ τ

def Attempt.Failed (a : Attempt σ τ α) : Prop := ∃ e, a.outcome = .error e

instance (a : Attempt σ τ α) : Decidable a.Failed :=
  match h : a.outcome with
  | .ok _ => isFalse fun ⟨_, he⟩ => nomatch h.symm.trans he
  | .error e => isTrue ⟨e, h⟩

def mayPass : Except Fault α → Bool
  | .ok _ => false
  | .error e => e.isRetryable

namespace Guard

variable [Timeline τ] [Surroundings σ τ]

/-- The call did not itself change the entry of the key. -/
def Spares (g : Guard τ) (key : String) (a : Attempt σ τ α) : Prop :=
  a.ended.circuits.find key = ((g.isOpen key).on a.asked).2.circuits.find key

def attempt? (g : Guard τ) (key : String) (call : Act σ τ α) (w : World σ τ) : Option (Attempt σ τ α) :=
  if ((g.isOpen key).on w).1 then none
  else some ⟨w, (call.on ((g.isOpen key).on w).2).1, (call.on ((g.isOpen key).on w).2).2⟩

/-- The attempts of a call that is tried from an attempt on, and up to `left` more times after that. -/
def attemptsFrom (g : Guard τ) (key : String) (call : Act σ τ α) : Nat → Nat → World σ τ → List (Attempt σ τ α)
  | _, 0, w => (g.attempt? key call w).toList
  | attempt, left + 1, w =>
    match g.attempt? key call w with
    | none => []
    | some a =>
      a :: if mayPass a.outcome then
          match (g.pause attempt : Act σ τ Unit).on ((g.fail key).on a.ended).2 with
          | (.ok _, v) => attemptsFrom g key call (attempt + 1) left v
          | (.error _, _) => []
        else []

section

variable {g : Guard τ} {key : String} {call : Act σ τ α} {attempt attempts left : Nat} {last : Option Fault}
  {w u v z : World σ τ}

theorem attempt?_rejected (hask : (g.isOpen key).on w = (true, u)) : g.attempt? key call w = none := by
  unfold attempt?
  rw [hask]
  rfl

theorem attempt?_passed {outcome : Except Fault α} (hask : (g.isOpen key).on w = (false, u))
    (hcall : call.on u = (outcome, v)) : g.attempt? key call w = some ⟨w, outcome, v⟩ := by
  unfold attempt?
  rw [hask]
  simp only [Bool.false_eq_true, if_false, hcall]

theorem attemptsFrom_rejected (hask : (g.isOpen key).on w = (true, u)) (left : Nat) :
    g.attemptsFrom key call attempt left w = [] := by
  cases left with
  | zero =>
    unfold attemptsFrom
    rw [attempt?_rejected hask]
    rfl
  | succ left =>
    unfold attemptsFrom
    rw [attempt?_rejected hask]

theorem attemptsFrom_last {outcome : Except Fault α} (hask : (g.isOpen key).on w = (false, u))
    (hcall : call.on u = (outcome, v)) (hend : mayPass outcome = false ∨ left = 0) :
    g.attemptsFrom key call attempt left w = [⟨w, outcome, v⟩] := by
  cases left with
  | zero =>
    unfold attemptsFrom
    rw [attempt?_passed hask hcall]
    rfl
  | succ left =>
    have hpass : mayPass outcome = false := hend.resolve_right (Nat.succ_ne_zero left)
    unfold attemptsFrom
    rw [attempt?_passed hask hcall]
    simp only [hpass, Bool.false_eq_true, if_false]

theorem attemptsFrom_again {e : Fault} (hask : (g.isOpen key).on w = (false, u))
    (hcall : call.on u = (.error e, v)) (he : e.isRetryable = true)
    (hpause : (g.pause attempt : Act σ τ Unit).on ((g.fail key).on v).2 = (.ok (), z)) :
    g.attemptsFrom key call attempt (left + 1) w =
      ⟨w, .error e, v⟩ :: g.attemptsFrom key call (attempt + 1) left z := by
  rw [attemptsFrom, attempt?_passed hask hcall]
  simp only [mayPass, he, if_true, hpause]

theorem attemptsFrom_stuck {e e' : Fault} (hask : (g.isOpen key).on w = (false, u))
    (hcall : call.on u = (.error e, v)) (he : e.isRetryable = true)
    (hpause : (g.pause attempt : Act σ τ Unit).on ((g.fail key).on v).2 = (.error e', z)) :
    g.attemptsFrom key call attempt (left + 1) w = [⟨w, .error e, v⟩] := by
  rw [attemptsFrom, attempt?_passed hask hcall]
  simp only [mayPass, he, if_true, hpause]

omit [Timeline τ] in
theorem circuits_pause (g : Guard τ) (attempt : Nat) (w : World σ τ) :
    ((g.pause attempt : Act σ τ Unit).on w).2.circuits = w.circuits := by
  have hbackoff := g.circuits_backoff attempt w
  unfold pause
  rw [Act.on_bind]
  rcases hdelay : (g.backoff attempt).on w with ⟨e | delay, v⟩
  · rw [hdelay] at hbackoff
    exact hbackoff
  · rw [hdelay] at hbackoff
    exact hbackoff

/-- The first attempt decides how a retried call goes on: it is rejected, it succeeds, it fails and is the last
one, or it fails and others follow. Waiting leaves the circuits alone. -/
theorem attemptsFrom_cases (g : Guard τ) (key : String) (call : Act σ τ α) (attempt : Nat) (last : Option Fault)
    (left : Nat) (w : World σ τ) :
    (∃ u, (g.isOpen key).on w = (true, u) ∧ g.attemptsFrom key call attempt left w = [] ∧
      ((g.retryFrom key call attempt last left).on w).2 = u) ∨
    ∃ u outcome v, (g.isOpen key).on w = (false, u) ∧ call.on u = (outcome, v) ∧
      ((∃ a, outcome = .ok a ∧ g.attemptsFrom key call attempt left w = [⟨w, outcome, v⟩]) ∨
      (g.attemptsFrom key call attempt left w = [⟨w, outcome, v⟩] ∧
        ((g.retryFrom key call attempt last left).on w).2.circuits = ((g.fail key).on v).2.circuits) ∨
      ∃ e n z, left = n + 1 ∧
        g.attemptsFrom key call attempt left w = ⟨w, outcome, v⟩ :: g.attemptsFrom key call (attempt + 1) n z ∧
        z.circuits = ((g.fail key).on v).2.circuits ∧
        (g.retryFrom key call attempt last left).on w = (g.retryFrom key call (attempt + 1) (some e) n).on z) := by
  have honward := g.retryFrom_onward key call attempt last left w
  generalize (g.retryFrom key call attempt last left).on w = r at honward ⊢
  cases honward with
  | @rejected u hask => exact Or.inl ⟨u, hask, attemptsFrom_rejected hask left, rfl⟩
  | @returned u v a hask hcall =>
    exact Or.inr ⟨u, .ok a, v, hask, hcall, Or.inl ⟨a, rfl, attemptsFrom_last hask hcall (Or.inl rfl)⟩⟩
  | @raised u v e hask hcall hend =>
    exact Or.inr ⟨u, .error e, v, hask, hcall, Or.inr (Or.inl ⟨attemptsFrom_last hask hcall hend, rfl⟩)⟩
  | @stuck u v z e f n hask hcall he hleft hpause =>
    subst hleft
    have hquiet := g.circuits_pause attempt ((g.fail key).on v).2
    rw [hpause] at hquiet
    exact Or.inr ⟨u, .error e, v, hask, hcall, Or.inr (Or.inl ⟨attemptsFrom_stuck hask hcall he hpause, hquiet⟩)⟩
  | @again u v z e n hask hcall he hleft hpause =>
    subst hleft
    have hquiet := g.circuits_pause attempt ((g.fail key).on v).2
    rw [hpause] at hquiet
    exact Or.inr ⟨u, .error e, v, hask, hcall,
      Or.inr (Or.inr ⟨e, n, z, rfl, attemptsFrom_again hask hcall he hpause, hquiet, rfl⟩)⟩

end

end Guard

def Ending.outcomes : Ending α → List (Except Fault α)
  | returned a => [.ok a]
  | raised e => [.error e]
  | rejected => []

namespace Guard

variable [Timeline τ] [Surroundings σ τ]

theorem Retried.outcomes {g : Guard τ} {key : String} {call : Act σ τ α} {attempt left : Nat} {last : Option Fault}
    {w : World σ τ} {r : Except Fault α × World σ τ} {passing : List Fault} {ending : Ending α}
    (h : g.Retried key call attempt (left + 1) last w r passing ending) :
    (g.attemptsFrom key call attempt left w).map (·.outcome) = passing.map .error ++ ending.outcomes := by
  induction left generalizing attempt last w passing with
  | zero =>
    rcases h.first with ⟨u, hask, rfl, rfl⟩ | ⟨u, a, v, hask, hcall, rfl, rfl⟩ | ⟨u, e, v, hask, hcall, hnext⟩
    · rw [attemptsFrom_rejected hask]
      rfl
    · rw [attemptsFrom_last hask hcall (Or.inr rfl)]
      rfl
    · rcases hnext with ⟨rfl, rfl, -⟩ | ⟨es, z, n, -, -, hn, -⟩
      · rw [attemptsFrom_last hask hcall (Or.inr rfl)]
        rfl
      · omega
  | succ left ih =>
    rcases h.first with ⟨u, hask, rfl, rfl⟩ | ⟨u, a, v, hask, hcall, rfl, rfl⟩ | ⟨u, e, v, hask, hcall, hnext⟩
    · rw [attemptsFrom_rejected hask]
      rfl
    · rw [attemptsFrom_last hask hcall (Or.inl rfl)]
      rfl
    · rcases hnext with ⟨rfl, rfl, hend⟩ | ⟨es, z, n, rfl, he, hn, ⟨delay, x, hdelay, hslept⟩, hrest⟩
      · have he : e.isRetryable = false := hend.resolve_right (by omega)
        rw [attemptsFrom_last hask hcall (Or.inl he)]
        rfl
      · obtain rfl : n = left := by omega
        have hpause : (g.pause attempt : Act σ τ Unit).on ((g.fail key).on v).2 = (.ok (), z) := by
          unfold pause
          rw [Act.on_bind, hdelay, Act.next_ok, Act.on_ofEffect, hslept]
        rw [attemptsFrom_again hask hcall he hpause, List.map_cons, ih hrest]
        rfl

/-! ## The budget -/

/-- How many failures a key may have before it has to wait. -/
def budget (g : Guard τ) : Nat := (max 1 g.rule.threshold).toNat

omit [Timeline τ] in
theorem budget_pos (g : Guard τ) : 1 ≤ g.budget := by
  unfold budget
  omega

omit [Timeline τ] in
theorem threshold_le_budget (g : Guard τ) : g.rule.threshold ≤ g.budget := by
  unfold budget
  omega

/-- Beyond the budget an attempt is let through only when the reset timeout has passed since the failure
before it. -/
def Spaced (g : Guard τ) (as : List (Attempt σ τ α)) : Prop :=
  ∀ j a b, g.budget ≤ j + 1 → as[j]? = some a → as[j + 1]? = some b →
    Timeline.elapsed g.rule.resetTimeout a.ended.time b.asked.time = true

/-- The attempts keep to the budget: they are spaced, and there are no more than the budget as long as the
reset timeout never passes from a failure to the next attempt. -/
def KeepsBudget (g : Guard τ) (as : List (Attempt σ τ α)) : Prop :=
  g.Spaced as ∧
    ((∀ (j : Nat) (a b : Attempt σ τ α), as[j]? = some a → as[j + 1]? = some b →
      Timeline.elapsed g.rule.resetTimeout a.ended.time b.asked.time = false) → as.length ≤ g.budget)

variable {g : Guard τ} {key : String} {as bs : List (Attempt σ τ α)} {w u v : World σ τ}

theorem spaced_nil (g : Guard τ) : g.Spaced ([] : List (Attempt σ τ α)) := by
  intro j a b _ ha
  simp at ha

theorem Spaced.snoc {b : Attempt σ τ α} (h : g.Spaced as)
    (hb : ∀ a, as.getLast? = some a → g.budget ≤ as.length →
      Timeline.elapsed g.rule.resetTimeout a.ended.time b.asked.time = true) : g.Spaced (as ++ [b]) := by
  intro j a b' hbudget ha hb'
  have hlength : j + 1 < (as ++ [b]).length := (List.getElem?_eq_some_iff.mp hb').1
  rw [List.length_append, List.length_singleton] at hlength
  rw [List.getElem?_append_left (by omega)] at ha
  by_cases hin : j + 1 < as.length
  · rw [List.getElem?_append_left hin] at hb'
    exact h j a b' hbudget ha hb'
  · -- the new attempt follows the last one
    have hj : as.length = j + 1 := by omega
    rw [← hj, List.getElem?_concat_length] at hb'
    obtain rfl : b = b' := Option.some.inj hb'
    refine hb a ?_ (by omega)
    rw [List.getLast?_eq_getElem?, hj, Nat.add_sub_cancel]
    exact ha

theorem Spaced.keepsBudget (h : g.Spaced as) : g.KeepsBudget as := by
  refine ⟨h, fun hnever => ?_⟩
  by_contra hmany
  -- the first attempt beyond the budget would have waited
  have hpos := g.budget_pos
  obtain ⟨a, ha⟩ : ∃ a, as[g.budget - 1]? = some a :=
    ⟨as[g.budget - 1], List.getElem?_eq_getElem (by omega)⟩
  obtain ⟨b, hb⟩ : ∃ b, as[g.budget - 1 + 1]? = some b :=
    ⟨as[g.budget - 1 + 1], List.getElem?_eq_getElem (by omega)⟩
  have helapsed := h (g.budget - 1) a b (by omega) ha hb
  rw [hnever (g.budget - 1) a b ha hb] at helapsed
  cases helapsed

/-! ## The entry of a key that only fails -/

/-- The entry of a key after attempts that all failed: it counts them and has the time of the last one, and it
is open from the threshold on. -/
def entryAfter (g : Guard τ) (as : List (Attempt σ τ α)) : Option (Circuit τ) :=
  as.getLast?.map fun a =>
    ⟨as.length, a.ended.time, if g.rule.threshold ≤ as.length then .opened else .closed⟩

/-- The key has the entry that some failed attempts leave, and those are spaced. -/
structure Ledger (g : Guard τ) (key : String) (as : List (Attempt σ τ α)) (w : World σ τ) : Prop where
  entry : w.circuits.find key = g.entryAfter as
  spaced : g.Spaced as

namespace Ledger

theorem start (hnone : w.circuits.find key = none) : g.Ledger key ([] : List (Attempt σ τ α)) w :=
  ⟨hnone, spaced_nil g⟩

theorem elsewhere (h : g.Ledger key as w) (hsame : v.circuits.find key = w.circuits.find key) :
    g.Ledger key as v :=
  ⟨hsame.trans h.entry, h.spaced⟩

theorem rejected (h : g.Ledger key as w) (hask : (g.isOpen key).on w = (true, u)) : g.Ledger key as u := by
  refine h.elsewhere ?_
  -- to ask changes the phase of an entry only if it does not reject
  have hrejects := g.isOpen_fst key w
  have hfind := g.find_isOpen key key w
  rw [hask, if_pos rfl] at hfind
  rw [hask] at hrejects
  obtain ⟨c, hc, hrejected⟩ := (Option.any_eq_true _ _).mp hrejects.symm
  rw [hfind, hc, Option.map_some, Circuit.asked, if_neg (by simp [hrejected])]

theorem elapsed (h : g.Ledger key as w) (hask : (g.isOpen key).on w = (false, u)) {a : Attempt σ τ α}
    (ha : as.getLast? = some a) (hbudget : g.budget ≤ as.length) :
    Timeline.elapsed g.rule.resetTimeout a.ended.time w.time = true := by
  have hthreshold : g.rule.threshold ≤ as.length :=
    Int.le_trans g.threshold_le_budget (Int.ofNat_le.mpr hbudget)
  have hpassed := g.isOpen_fst key w
  rw [hask, h.entry, entryAfter, ha, Option.map_some, Option.any_some, if_pos hthreshold] at hpassed
  simpa [Circuit.rejects] using hpassed.symm

theorem entry_failed (h : g.Ledger key as w) (hask : (g.isOpen key).on w = (false, u))
    (hcall : v.circuits.find key = u.circuits.find key) (outcome : Except Fault α) :
    ((g.fail key).on v).2.circuits.find key = g.entryAfter (as ++ [⟨w, outcome, v⟩]) := by
  have hfind := g.find_isOpen key key w
  rw [hask, if_pos rfl, h.entry] at hfind
  rw [find_fail, if_pos rfl, hcall, hfind, entryAfter, entryAfter, List.getLast?_concat, Option.map_some,
    List.length_append, List.length_singleton]
  cases hlast : as.getLast? with
  | none =>
    obtain rfl : as = [] := List.getLast?_eq_none_iff.mp hlast
    rfl
  | some a =>
    simp only [Option.map_some, Circuits.worsened, Option.elim_some, Circuit.asked_failures, Option.some.injEq,
      Circuit.mk.injEq, true_and]
    by_cases hnext : g.rule.threshold ≤ ((as.length + 1 : Nat) : Int)
    · rw [if_pos hnext, if_pos hnext]
    · -- below the threshold now, so closed before
      rw [if_neg hnext, if_neg hnext, if_neg (by omega), Circuit.asked, if_neg (by simp)]

theorem failed (h : g.Ledger key as w) (hask : (g.isOpen key).on w = (false, u))
    (hcall : v.circuits.find key = u.circuits.find key) (outcome : Except Fault α) :
    g.Ledger key (as ++ [⟨w, outcome, v⟩]) ((g.fail key).on v).2 :=
  ⟨h.entry_failed hask hcall outcome, h.spaced.snoc fun _ ha hbudget => h.elapsed hask ha hbudget⟩

theorem attemptsFrom {call : Act σ τ α} {attempt : Nat} (last : Option Fault) (left : Nat) (h : g.Ledger key as w)
    (hall : ∀ a ∈ g.attemptsFrom key call attempt left w, a.Failed ∧ g.Spares key a) :
    g.Ledger key (as ++ g.attemptsFrom key call attempt left w)
      ((g.retryFrom key call attempt last left).on w).2 := by
  -- on how many attempts are left, whatever failed before: a failed attempt joins `as`
  induction left using Nat.strongRecOn generalizing as attempt last w with
  | ind left ih =>
    rcases attemptsFrom_cases g key call attempt last left w with ⟨u, hask, hnone, hrun⟩ |
      ⟨u, outcome, v, hask, hcall, hnext⟩
    · rw [hnone, hrun, List.append_nil]
      exact h.rejected hask
    · have hspares (hmem : ⟨w, outcome, v⟩ ∈ g.attemptsFrom key call attempt left w) :
          v.circuits.find key = u.circuits.find key := by
        have hspared := (hall _ hmem).2
        rwa [Guard.Spares, hask] at hspared
      rcases hnext with ⟨a, rfl, hone⟩ | ⟨hone, hrun⟩ | ⟨e, n, z, rfl, hmany, hquiet, hrun⟩
      · -- an attempt that succeeds is not among failed ones
        rw [hone] at hall
        obtain ⟨⟨e, he⟩, -⟩ := hall _ (List.mem_singleton_self _)
        cases he
      · rw [hone]
        refine (h.failed hask (hspares (by simp [hone])) outcome).elsewhere ?_
        rw [hrun]
      · have hfailed : g.Ledger key (as ++ [⟨w, outcome, v⟩]) z :=
          (h.failed hask (hspares (by simp [hmany])) outcome).elsewhere (by rw [hquiet])
        rw [hmany] at hall ⊢
        rw [hrun, List.append_cons]
        exact ih n (Nat.lt_succ_self n) (some e) hfailed fun a ha => hall a (List.mem_cons_of_mem _ ha)

end Ledger

theorem called_of_mem_attemptsFrom {call : Act σ τ α} (attempt left : Nat) (w : World σ τ) :
    ∀ a ∈ g.attemptsFrom key call attempt left w,
      ∃ u, (g.isOpen key).on a.asked = (false, u) ∧ call.on u = (a.outcome, a.ended) := by
  induction left using Nat.strongRecOn generalizing attempt w with
  | ind left ih =>
    intro a ha
    rcases attemptsFrom_cases g key call attempt none left w with ⟨u, -, hnone, -⟩ |
      ⟨u, outcome, v, hask, hcall, ⟨-, -, hone⟩ | ⟨hone, -⟩ | ⟨e, n, z, rfl, hmany, -, -⟩⟩
    · rw [hnone] at ha
      cases ha
    · rw [hone, List.mem_singleton] at ha
      exact ⟨u, ha ▸ hask, ha ▸ hcall⟩
    · rw [hone, List.mem_singleton] at ha
      exact ⟨u, ha ▸ hask, ha ▸ hcall⟩
    · rw [hmany] at ha
      rcases List.mem_cons.mp ha with rfl | hrest
      · exact ⟨u, hask, hcall⟩
      · exact ih n (Nat.lt_succ_self n) (attempt + 1) z a hrest

theorem spares_attemptsFrom {call : Act σ τ α}
    (hcall : ∀ w, (call.on w).2.circuits.find key = w.circuits.find key) (attempt left : Nat) (w : World σ τ) :
    ∀ a ∈ g.attemptsFrom key call attempt left w, g.Spares key a := by
  intro a ha
  obtain ⟨u, hask, hrun⟩ := called_of_mem_attemptsFrom attempt left w a ha
  have hsame := hcall u
  rw [hrun] at hsame
  unfold Spares
  rw [hask]
  exact hsame

/-! ## Retried calls in turn -/

end Guard

/-- A use of a retried call: how often it is tried, what is called, and where it begins. -/
structure Use (σ τ α : Type) where
  attempts : Int
  call : Act σ τ α
  before : World σ τ

namespace Guard

variable [Timeline τ] [Surroundings σ τ] {g : Guard τ} {key : String} {as : List (Attempt σ τ α)} {w : World σ τ}

def attemptsOf (g : Guard τ) (key : String) (x : Use σ τ α) : List (Attempt σ τ α) :=
  if x.attempts < 1 then [] else g.attemptsFrom key x.call 1 (x.attempts.toNat - 1) x.before

/-- The uses follow one another; between them anything may happen that leaves the entry of the key alone. -/
def InTurn (g : Guard τ) (key : String) : World σ τ → List (Use σ τ α) → Prop
  | _, [] => True
  | w, x :: xs => x.before.circuits.find key = w.circuits.find key ∧
      g.InTurn key ((g.retry key x.attempts x.call).on x.before).2 xs

theorem spares_attemptsOf {x : Use σ τ α}
    (hcall : ∀ w, (x.call.on w).2.circuits.find key = w.circuits.find key) :
    ∀ a ∈ g.attemptsOf key x, g.Spares key a := by
  intro a ha
  unfold attemptsOf at ha
  split_ifs at ha
  · cases ha
  · exact spares_attemptsFrom hcall _ _ _ a ha

namespace Ledger

theorem use {x : Use σ τ α} (h : g.Ledger key as x.before)
    (hall : ∀ a ∈ g.attemptsOf key x, a.Failed ∧ g.Spares key a) :
    g.Ledger key (as ++ g.attemptsOf key x) ((g.retry key x.attempts x.call).on x.before).2 := by
  unfold attemptsOf retry at *
  split_ifs at hall ⊢
  · rw [Act.on_throw, List.append_nil]
    exact h
  · exact h.attemptsFrom none _ hall

/-- However many retried calls follow one another, as long as all their attempts fail these are spaced. -/
theorem uses {xs : List (Use σ τ α)} (h : g.Ledger key as w) (hturn : g.InTurn key w xs)
    (hall : ∀ a ∈ xs.flatMap (g.attemptsOf key), a.Failed ∧ g.Spares key a) :
    g.Spaced (as ++ xs.flatMap (g.attemptsOf key)) := by
  induction xs generalizing as w with
  | nil =>
    rw [List.flatMap_nil, List.append_nil]
    exact h.spaced
  | cons x xs ih =>
    obtain ⟨hsame, hrest⟩ := hturn
    rw [List.flatMap_cons] at hall ⊢
    have hfirst : g.Ledger key (as ++ g.attemptsOf key x) ((g.retry key x.attempts x.call).on x.before).2 :=
      (h.elsewhere hsame).use fun a ha => hall a (List.mem_append_left _ ha)
    rw [← List.append_assoc]
    exact ih hfirst hrest fun a ha => hall a (List.mem_append_right _ ha)

end Ledger

end Guard

end SessionKeeper

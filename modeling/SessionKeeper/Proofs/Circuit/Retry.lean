import SessionKeeper.Proofs.Circuit.Entry
import SessionKeeper.Rehearsal

/-!
# The trace of a retried call

`Guard.retry` asks, calls, records and waits in one fixed pattern, whatever the call, the clock and the
circuits do in between.

* `Move`, `Move.Does`, `Moves` : what a retried call does, one move and several, as steps between worlds.
* `Ending`, `trace` : how it ends, and the moves of a run with given failures and a given ending.
* `Guard.Onward`, `Guard.retryFrom_onward` : how a retried call goes on from its first attempt.
* `Guard.Retried` : a run of a retried call.
* `Guard.retry_trace` : there is exactly one run, and what the circuit of the key is afterwards.
-/

namespace SessionKeeper

variable {σ τ α : Type}

/-! ## Waiting times -/

/-- There is a waiting time at the limit. That holds of every limit that is a floating-point number, as
limits are declared, and where there is no limit; an integer must not be beyond the floating-point numbers. -/
def Guard.HasFiniteLimit (g : Guard τ) : Prop :=
  ∀ i, g.maxBackoff = some (.integer i) → ∀ share, ∃ delay, Backoff.withJitter (.integer i) share = .ok delay

namespace Backoff

theorem withJitter_real (x share : Float) : ∃ delay, withJitter (.real x) share = .ok delay :=
  ⟨x + share * (x / 2.0), rfl⟩

/-- Up to attempt 1023 there is a waiting time, which is either a floating-point number or the limit. -/
theorem raw_ok (limit : Option Number) {attempt : Nat} (h : attempt < 1024) :
    ∃ delay, raw (.real 1.0) limit attempt = .ok delay ∧ ((∃ x, delay = .real x) ∨ limit = some delay) := by
  have hpower : timesPower (.real 1.0) (attempt : Int) =
      .ok (.real (1.0 * Decimal.floatOfInt (Decimal.twoTo attempt))) := by
    show (if 1024 ≤ attempt then _ else _) = _
    rw [if_neg (by omega)]
  unfold raw
  rw [hpower]
  cases limit with
  | none => exact ⟨_, rfl, Or.inl ⟨_, rfl⟩⟩
  | some m =>
    by_cases hless : m.less (.real (1.0 * Decimal.floatOfInt (Decimal.twoTo attempt)))
    · exact ⟨m, by simp [bind, Except.bind, hless, pure, Except.pure], Or.inr rfl⟩
    · refine ⟨.real (1.0 * Decimal.floatOfInt (Decimal.twoTo attempt)), ?_, Or.inl ⟨_, rfl⟩⟩
      simp [bind, Except.bind, hless, pure, Except.pure]

end Backoff

namespace Guard

variable [Surroundings σ τ]

theorem circuits_backoff (g : Guard τ) (attempt : Int) (w : World σ τ) :
    ((g.backoff attempt).on w).2.circuits = w.circuits := by
  unfold backoff
  rw [Act.on_bind, Act.on_ofExcept]
  cases Backoff.raw (.real 1.0) g.maxBackoff attempt with
  | error e => rfl
  | ok delay => rfl

theorem backoff_on {g : Guard τ} (hlimit : g.HasFiniteLimit) {attempt : Nat} (h : attempt < 1024)
    (w : World σ τ) :
    ∃ delay, (g.backoff attempt).on w = (.ok delay, (Effect.chance.on w : Float × World σ τ).2) := by
  obtain ⟨raw, hraw, hkind⟩ := Backoff.raw_ok g.maxBackoff h
  have hjitter : ∃ delay, Backoff.withJitter raw (Effect.chance.on w : Float × World σ τ).1 = .ok delay := by
    rcases hkind with ⟨x, rfl⟩ | hm
    · exact Backoff.withJitter_real x _
    · cases raw with
      | real x => exact Backoff.withJitter_real x _
      | integer i => exact hlimit i hm _
  obtain ⟨delay, hdelay⟩ := hjitter
  refine ⟨delay, ?_⟩
  unfold backoff
  rw [hraw, Act.on_bind, Act.on_ofExcept, Act.next_ok, Act.on_bind, Act.on_ofEffect, Act.next_ok,
    Act.on_ofExcept, hdelay]

end Guard

/-! ## The last failure -/

theorem getLast?_or_cons (x : α) (xs : List α) (last : Option α) :
    (x :: xs).getLast?.or last = xs.getLast?.or (some x) := by
  rw [List.getLast?_cons]
  cases xs.getLast? <;> rfl

/-! ## Moves -/

/-- Something that a retried call does. -/
inductive Move (α : Type) where
  | asked (rejected : Bool)
  | called (outcome : Except Fault α)
  | succeeded
  | failed
  | slept (attempt : Nat)

def Move.isFailure : Move α → Bool
  | failed => true
  | _ => false

/-- What a move sees in a world, and the world that it leads to. -/
def Move.Does [Timeline τ] [Surroundings σ τ] (g : Guard τ) (key : String) (call : Act σ τ α) :
    Move α → World σ τ → World σ τ → Prop
  | .asked rejected, w, v => (g.isOpen key).on w = (rejected, v)
  | .called outcome, w, v => call.on w = (outcome, v)
  | .succeeded, w, v => (Guard.succeed key).on w = ((), v)
  | .failed, w, v => (g.fail key).on w = ((), v)
  | .slept attempt, w, v => ∃ delay u, (g.backoff attempt).on w = (.ok delay, u) ∧
      (Effect.sleep delay).on u = ((), v)

/-- Several moves, one after the other. -/
def Moves [Timeline τ] [Surroundings σ τ] (g : Guard τ) (key : String) (call : Act σ τ α) :
    List (Move α) → World σ τ → World σ τ → Prop
  | [], w, v => v = w
  | m :: ms, w, v => ∃ u, m.Does g key call w u ∧ Moves g key call ms u v

/-- How a retried call ends. -/
inductive Ending (α : Type) where
  | returned (a : α)
  | raised (e : Fault)
  | rejected

namespace Ending

def moves : Ending α → List (Move α)
  | returned a => [.asked false, .called (.ok a), .succeeded]
  | raised e => [.asked false, .called (.error e), .failed]
  | rejected => [.asked true]

/-- What the caller gets; a rejection follows from the failure before it. -/
def result (key : String) (last : Option Fault) : Ending α → Except Fault α
  | returned a => .ok a
  | raised e => .error e
  | rejected => .error (.circuitOpen key last)

def failures : Ending α → Nat
  | raised _ => 1
  | _ => 0

end Ending

/-- The moves of a run from an attempt on, with the failures that were followed by another attempt. -/
def trace : Nat → List Fault → Ending α → List (Move α)
  | _, [], ending => ending.moves
  | attempt, e :: es, ending =>
    .asked false :: .called (.error e) :: .failed :: .slept attempt :: trace (attempt + 1) es ending

/-- A run of a call that is tried up to `attempts` times from an attempt on: the failures that were
followed by another attempt, and how it ended. -/
structure Guard.Retried [Timeline τ] [Surroundings σ τ] (g : Guard τ) (key : String) (call : Act σ τ α)
    (attempt attempts : Nat) (last : Option Fault) (w : World σ τ) (r : Except Fault α × World σ τ)
    (passing : List Fault) (ending : Ending α) : Prop where
  retryable : ∀ e ∈ passing, e.isRetryable = true
  few : passing.length < attempts
  final : ∀ e, ending = .raised e → e.isRetryable = false ∨ passing.length + 1 = attempts
  moves : Moves g key call (trace attempt passing ending) w r.2
  result : r.1 = ending.result key (passing.getLast?.or last)

namespace Guard

variable [Timeline τ] [Surroundings σ τ] {g : Guard τ} {key : String} {call : Act σ τ α}
  {attempt attempts left : Nat} {last : Option Fault} {w : World σ τ}

/-! ## One attempt -/

theorem trial_rejected (h : ((g.isOpen key).on w).1 = true) :
    (g.trial key call last).on w = (.error (.circuitOpen key last), ((g.isOpen key).on w).2) := by
  unfold trial
  rw [Act.on_bind, Act.on_ofEffect, Act.next_ok, h]
  rfl

theorem trial_passed (h : ((g.isOpen key).on w).1 = false) {outcome : Except Fault α} {u : World σ τ}
    (hcall : call.on ((g.isOpen key).on w).2 = (outcome, u)) :
    (g.trial key call last).on w = (.ok outcome, ((g.record key outcome).on u).2) := by
  unfold trial
  rw [Act.on_bind, Act.on_ofEffect, Act.next_ok, h]
  simp only [Bool.false_eq_true, if_false]
  rw [Act.on_bind, Act.on_attempt, Act.next_ok, hcall, Act.on_bind, Act.on_ofEffect, Act.next_ok,
    Act.on_pure]

theorem pause_on (hlimit : g.HasFiniteLimit) (key : String) (call : Act σ τ α) (h : attempt < 1024)
    (w : World σ τ) :
    ∃ v, (g.pause attempt : Act σ τ Unit).on w = (.ok (), v) ∧
      (Move.slept attempt : Move α).Does g key call w v := by
  obtain ⟨delay, hdelay⟩ := backoff_on hlimit h w
  refine ⟨((Effect.sleep delay).on (Effect.chance.on w : Float × World σ τ).2).2, ?_, delay, _, hdelay, rfl⟩
  unfold pause
  rw [Act.on_bind, hdelay, Act.next_ok, Act.on_ofEffect]

theorem retryFrom_rejected (h : ((g.isOpen key).on w).1 = true) (left : Nat) :
    (g.retryFrom key call attempt last left).on w =
      (.error (.circuitOpen key last), ((g.isOpen key).on w).2) := by
  cases left with
  | zero =>
    unfold retryFrom
    rw [Act.on_bind, trial_rejected h, Act.next_error]
  | succ left =>
    unfold retryFrom
    rw [Act.on_bind, trial_rejected h, Act.next_error]

theorem retryFrom_returned (h : ((g.isOpen key).on w).1 = false) {a : α} {u : World σ τ}
    (hcall : call.on ((g.isOpen key).on w).2 = (.ok a, u)) (left : Nat) :
    (g.retryFrom key call attempt last left).on w = (.ok a, ((succeed key).on u).2) := by
  cases left with
  | zero =>
    unfold retryFrom
    rw [Act.on_bind, trial_passed h hcall, Act.next_ok, Act.on_ofExcept]
    rfl
  | succ left =>
    unfold retryFrom
    rw [Act.on_bind, trial_passed h hcall, Act.next_ok, Act.on_pure]
    rfl

theorem retryFrom_raised (h : ((g.isOpen key).on w).1 = false) {e : Fault} {u : World σ τ}
    (hcall : call.on ((g.isOpen key).on w).2 = (.error e, u)) (hend : e.isRetryable = false ∨ left = 0) :
    (g.retryFrom key call attempt last left).on w = (.error e, ((g.fail key).on u).2) := by
  cases left with
  | zero =>
    unfold retryFrom
    rw [Act.on_bind, trial_passed h hcall, Act.next_ok, Act.on_ofExcept]
    rfl
  | succ left =>
    have he : e.isRetryable = false := hend.resolve_right (by omega)
    unfold retryFrom
    rw [Act.on_bind, trial_passed h hcall, Act.next_ok]
    simp only [he, Bool.false_eq_true, if_false]
    rw [Act.on_throw]
    rfl

theorem retryFrom_again (h : ((g.isOpen key).on w).1 = false) {e : Fault} {u v : World σ τ}
    (hcall : call.on ((g.isOpen key).on w).2 = (.error e, u)) (he : e.isRetryable = true)
    (hpause : (g.pause attempt : Act σ τ Unit).on ((g.fail key).on u).2 = (.ok (), v)) :
    (g.retryFrom key call attempt last (left + 1)).on w =
      (g.retryFrom key call (attempt + 1) (some e) left).on v := by
  rw [retryFrom, Act.on_bind, trial_passed h hcall, Act.next_ok]
  simp only [he, if_true]
  rw [Act.on_bind, record, hpause, Act.next_ok]

theorem retryFrom_stuck {e e' : Fault} {u v z : World σ τ} (hask : (g.isOpen key).on w = (false, u))
    (hcall : call.on u = (.error e, v)) (he : e.isRetryable = true)
    (hpause : (g.pause attempt : Act σ τ Unit).on ((g.fail key).on v).2 = (.error e', z)) :
    (g.retryFrom key call attempt last (left + 1)).on w = (.error e', z) := by
  rw [retryFrom, Act.on_bind, trial_passed (by rw [hask]) (by rw [hask, hcall]), Act.next_ok]
  simp only [he, if_true]
  rw [Act.on_bind, record, hpause, Act.next_error]

/-- What a retried call comes to, from its first attempt on. -/
inductive Onward (g : Guard τ) (key : String) (call : Act σ τ α) (attempt : Nat) (last : Option Fault) (left : Nat)
    (w : World σ τ) : Except Fault α × World σ τ → Prop
  | rejected {u : World σ τ} (hask : (g.isOpen key).on w = (true, u)) :
    Onward g key call attempt last left w (.error (.circuitOpen key last), u)
  | returned {u v : World σ τ} {a : α} (hask : (g.isOpen key).on w = (false, u)) (hcall : call.on u = (.ok a, v)) :
    Onward g key call attempt last left w (.ok a, ((succeed key).on v).2)
  | raised {u v : World σ τ} {e : Fault} (hask : (g.isOpen key).on w = (false, u))
    (hcall : call.on u = (.error e, v)) (hend : e.isRetryable = false ∨ left = 0) :
    Onward g key call attempt last left w (.error e, ((g.fail key).on v).2)
  | stuck {u v z : World σ τ} {e f : Fault} {n : Nat} (hask : (g.isOpen key).on w = (false, u))
    (hcall : call.on u = (.error e, v)) (he : e.isRetryable = true) (hleft : left = n + 1)
    (hpause : (g.pause attempt : Act σ τ Unit).on ((g.fail key).on v).2 = (.error f, z)) :
    Onward g key call attempt last left w (.error f, z)
  | again {u v z : World σ τ} {e : Fault} {n : Nat} (hask : (g.isOpen key).on w = (false, u))
    (hcall : call.on u = (.error e, v)) (he : e.isRetryable = true) (hleft : left = n + 1)
    (hpause : (g.pause attempt : Act σ τ Unit).on ((g.fail key).on v).2 = (.ok (), z)) :
    Onward g key call attempt last left w ((g.retryFrom key call (attempt + 1) (some e) n).on z)

theorem retryFrom_onward (g : Guard τ) (key : String) (call : Act σ τ α) (attempt : Nat) (last : Option Fault)
    (left : Nat) (w : World σ τ) :
    g.Onward key call attempt last left w ((g.retryFrom key call attempt last left).on w) := by
  rcases hask : (g.isOpen key).on w with ⟨rejected, u⟩
  cases rejected with
  | true =>
    rw [retryFrom_rejected (by rw [hask]), hask]
    exact .rejected hask
  | false =>
    rcases hcall : call.on u with ⟨e | a, v⟩
    · by_cases hend : e.isRetryable = false ∨ left = 0
      · rw [retryFrom_raised (by rw [hask]) (by rw [hask, hcall]) hend]
        exact .raised hask hcall hend
      · push Not at hend
        have he : e.isRetryable = true := by simpa using hend.1
        obtain ⟨n, rfl⟩ := Nat.exists_eq_succ_of_ne_zero hend.2
        rcases hpause : (g.pause attempt : Act σ τ Unit).on ((g.fail key).on v).2 with ⟨f | ⟨⟩, z⟩
        · rw [retryFrom_stuck hask hcall he hpause]
          exact .stuck hask hcall he rfl hpause
        · rw [retryFrom_again (by rw [hask]) (by rw [hask, hcall]) he hpause]
          exact .again hask hcall he rfl hpause
    · rw [retryFrom_returned (by rw [hask]) (by rw [hask, hcall])]
      exact .returned hask hcall

/-! ## Existence -/

theorem Retried.again {e : Fault} {u v z : World σ τ} {r : Except Fault α × World σ τ}
    {passing : List Fault} {ending : Ending α} (he : e.isRetryable = true)
    (hask : (g.isOpen key).on w = (false, u)) (hcall : call.on u = (.error e, v))
    (hslept : (Move.slept attempt : Move α).Does g key call ((g.fail key).on v).2 z)
    (h : g.Retried key call (attempt + 1) attempts (some e) z r passing ending) :
    g.Retried key call attempt (attempts + 1) last w r (e :: passing) ending where
  retryable := List.forall_mem_cons.mpr ⟨he, h.retryable⟩
  few := Nat.succ_lt_succ h.few
  final e' hraised := (h.final e' hraised).imp_right (congrArg (· + 1))
  moves := ⟨u, hask, v, hcall, _, rfl, z, hslept, h.moves⟩
  result := by rw [h.result, getLast?_or_cons]

theorem Retried.of_rejected {u : World σ τ} (hask : (g.isOpen key).on w = (true, u)) (left : Nat) :
    g.Retried key call attempt (left + 1) last w ((g.retryFrom key call attempt last left).on w) []
      .rejected where
  retryable := by simp
  few := by simp
  final := by simp
  moves := ⟨u, hask, by rw [retryFrom_rejected (by rw [hask]), hask]; rfl⟩
  result := by rw [retryFrom_rejected (by rw [hask])]; rfl

theorem Retried.of_returned {a : α} {u v : World σ τ} (hask : (g.isOpen key).on w = (false, u))
    (hcall : call.on u = (.ok a, v)) (left : Nat) :
    g.Retried key call attempt (left + 1) last w ((g.retryFrom key call attempt last left).on w) []
      (.returned a) := by
  have hrun : (g.retryFrom key call attempt last left).on w = (.ok a, ((succeed key).on v).2) :=
    retryFrom_returned (by rw [hask]) (by rw [hask, hcall]) left
  exact {
    retryable := by simp
    few := by simp
    final := by simp
    moves := ⟨u, hask, v, hcall, _, rfl, by rw [hrun]; rfl⟩
    result := by rw [hrun]; rfl }

theorem Retried.of_raised {e : Fault} {u v : World σ τ} (hask : (g.isOpen key).on w = (false, u))
    (hcall : call.on u = (.error e, v)) (hend : e.isRetryable = false ∨ left = 0) :
    g.Retried key call attempt (left + 1) last w ((g.retryFrom key call attempt last left).on w) []
      (.raised e) := by
  have hrun : (g.retryFrom key call attempt last left).on w = (.error e, ((g.fail key).on v).2) :=
    retryFrom_raised (by rw [hask]) (by rw [hask, hcall]) hend
  exact {
    retryable := by simp
    few := by simp
    final := by
      intro e' he
      obtain rfl : e = e' := by simpa using he
      exact hend.imp_right (by simp_all)
    moves := ⟨u, hask, v, hcall, _, rfl, by rw [hrun]; rfl⟩
    result := by rw [hrun]; rfl }

theorem exists_retried (hlimit : g.HasFiniteLimit) (key : String) (call : Act σ τ α) (last : Option Fault)
    (w : World σ τ) (hattempt : attempt + left ≤ 1024) :
    ∃ passing ending, g.Retried key call attempt (left + 1) last w
      ((g.retryFrom key call attempt last left).on w) passing ending := by
  induction left using Nat.strongRecOn generalizing attempt last w with
  | ind left ih =>
    rcases hask : (g.isOpen key).on w with ⟨rejected, u⟩
    cases rejected with
    | true => exact ⟨[], .rejected, .of_rejected hask left⟩
    | false =>
      rcases hcall : call.on u with ⟨e | a, v⟩
      · by_cases hend : e.isRetryable = false ∨ left = 0
        · exact ⟨[], .raised e, .of_raised hask hcall hend⟩
        · push Not at hend
          have he : e.isRetryable = true := by simpa using hend.1
          obtain ⟨n, rfl⟩ := Nat.exists_eq_succ_of_ne_zero hend.2
          obtain ⟨z, hpause, hslept⟩ :=
            pause_on hlimit key call (show attempt < 1024 by omega) ((g.fail key).on v).2
          obtain ⟨passing, ending, hrest⟩ :=
            ih n (by omega) (some e) z (show attempt + 1 + n ≤ 1024 by omega)
          rw [retryFrom_again (by rw [hask]) (by rw [hask, hcall]) he hpause]
          exact ⟨e :: passing, ending, hrest.again he hask hcall hslept⟩
      · exact ⟨[], .returned a, .of_returned hask hcall left⟩

/-! ## Uniqueness -/

variable {r r' : Except Fault α × World σ τ} {passing passing' : List Fault} {ending ending' : Ending α}
  {u v : World σ τ}

theorem slept_unique {z z' : World σ τ} (h : (Move.slept attempt : Move α).Does g key call w z)
    (h' : (Move.slept attempt : Move α).Does g key call w z') : z = z' := by
  obtain ⟨delay, x, hdelay, hz⟩ := h
  obtain ⟨delay', x', hdelay', hz'⟩ := h'
  rw [hdelay] at hdelay'
  obtain ⟨rfl, rfl⟩ : delay = delay' ∧ x = x' := by simpa using hdelay'
  rw [hz] at hz'
  simpa using hz'

/-- The first attempt of a run: it is rejected, it returns, or it fails; and a failure is the last one, or
what follows it is a run as well. -/
theorem Retried.first (h : g.Retried key call attempt attempts last w r passing ending) :
    (∃ u, (g.isOpen key).on w = (true, u) ∧ passing = [] ∧ ending = .rejected) ∨
    (∃ u a v, (g.isOpen key).on w = (false, u) ∧ call.on u = (.ok a, v) ∧ passing = [] ∧ ending = .returned a) ∨
    ∃ u e v, (g.isOpen key).on w = (false, u) ∧ call.on u = (.error e, v) ∧
      ((passing = [] ∧ ending = .raised e ∧ (e.isRetryable = false ∨ attempts = 1)) ∨
        ∃ es z n, passing = e :: es ∧ e.isRetryable = true ∧ attempts = n + 2 ∧
          (Move.slept attempt : Move α).Does g key call ((g.fail key).on v).2 z ∧
          g.Retried key call (attempt + 1) (n + 1) (some e) z r es ending) := by
  cases passing with
  | nil =>
    cases ending with
    | rejected =>
      obtain ⟨u, hu, -⟩ := h.moves
      exact Or.inl ⟨u, hu, rfl, rfl⟩
    | returned a =>
      obtain ⟨u, hu, v, hv, -⟩ := h.moves
      exact Or.inr (Or.inl ⟨u, a, v, hu, hv, rfl, rfl⟩)
    | raised e =>
      obtain ⟨u, hu, v, hv, -⟩ := h.moves
      exact Or.inr (Or.inr ⟨u, e, v, hu, hv, Or.inl ⟨rfl, rfl, (h.final e rfl).imp_right Eq.symm⟩⟩)
  | cons e es =>
    obtain ⟨u, hu, v, hv, x, hx, z, hz, hmoves⟩ := h.moves
    obtain rfl : x = ((g.fail key).on v).2 := (congrArg Prod.snd hx).symm
    have hfew : es.length + 1 < attempts := h.few
    obtain ⟨n, rfl⟩ := Nat.exists_eq_add_of_le' (show 2 ≤ attempts by omega)
    have hrest : g.Retried key call (attempt + 1) (n + 1) (some e) z r es ending := {
      retryable := fun e' he' => h.retryable e' (List.mem_cons_of_mem _ he')
      few := by omega
      final := fun e' he' => (h.final e' he').imp_right Nat.succ.inj
      moves := hmoves
      result := by rw [h.result, getLast?_or_cons] }
    exact Or.inr (Or.inr ⟨u, e, v, hu, hv,
      Or.inr ⟨es, z, n, rfl, h.retryable e List.mem_cons_self, rfl, hz, hrest⟩⟩)

theorem not_last_and_again {e : Fault} {n : Nat} (hlast : e.isRetryable = false ∨ attempts = 1)
    (he : e.isRetryable = true) (hn : attempts = n + 2) : False := by
  rcases hlast with hlast | hlast
  · rw [he] at hlast
    cases hlast
  · omega

theorem Retried.unique (h : g.Retried key call attempt attempts last w r passing ending)
    (h' : g.Retried key call attempt attempts last w r' passing' ending') :
    passing = passing' ∧ ending = ending' := by
  -- both runs see the same first attempt; after a pause they go on in the same world, with one attempt less
  induction attempts using Nat.strongRecOn generalizing attempt last w passing passing' with
  | ind attempts ih =>
    rcases h.first with ⟨u, hask, rfl, rfl⟩ | ⟨u, a, v, hask, hcall, rfl, rfl⟩ | ⟨u, e, v, hask, hcall, hnext⟩
    · rcases h'.first with ⟨u', -, rfl, rfl⟩ | ⟨u', a', v', hask', -⟩ | ⟨u', e', v', hask', -⟩
      · exact ⟨rfl, rfl⟩
      · simp [hask] at hask'
      · simp [hask] at hask'
    · rcases h'.first with ⟨u', hask', -⟩ | ⟨u', a', v', hask', hcall', rfl, rfl⟩ | ⟨u', e', v', hask', hcall', -⟩
      · simp [hask] at hask'
      · obtain rfl : u = u' := by simpa [hask] using hask'
        obtain ⟨rfl, -⟩ : a = a' ∧ v = v' := by simpa [hcall] using hcall'
        exact ⟨rfl, rfl⟩
      · obtain rfl : u = u' := by simpa [hask] using hask'
        simp [hcall] at hcall'
    · rcases h'.first with ⟨u', hask', -⟩ | ⟨u', a', v', hask', hcall', -⟩ | ⟨u', e', v', hask', hcall', hnext'⟩
      · simp [hask] at hask'
      · obtain rfl : u = u' := by simpa [hask] using hask'
        simp [hcall] at hcall'
      · obtain rfl : u = u' := by simpa [hask] using hask'
        obtain ⟨rfl, rfl⟩ : e = e' ∧ v = v' := by simpa [hcall] using hcall'
        rcases hnext with ⟨rfl, rfl, hend⟩ | ⟨es, z, n, rfl, he, hn, hz, hrest⟩
        · rcases hnext' with ⟨rfl, rfl, -⟩ | ⟨es', z', n', -, he', hn', -, -⟩
          · exact ⟨rfl, rfl⟩
          · exact (not_last_and_again hend he' hn').elim
        · rcases hnext' with ⟨-, -, hend⟩ | ⟨es', z', n', rfl, -, hn', hz', hrest'⟩
          · exact (not_last_and_again hend he hn).elim
          · obtain rfl : z = z' := slept_unique hz hz'
            obtain rfl : n = n' := by omega
            obtain ⟨rfl, rfl⟩ := ih (n + 1) (by omega) hrest hrest'
            exact ⟨rfl, rfl⟩

/-! ## The entry of the key -/

theorem failuresOf_move {m : Move α} {w v : World σ τ}
    (hcall : ∀ w, (call.on w).2.circuits.find key = w.circuits.find key) (h : m.Does g key call w v)
    (hm : m ≠ .succeeded) :
    v.circuits.failuresOf key = w.circuits.failuresOf key + if m.isFailure then 1 else 0 := by
  cases m with
  | asked rejected =>
    obtain rfl : ((g.isOpen key).on w).2 = v := congrArg Prod.snd h
    exact failuresOf_isOpen g key w
  | called outcome =>
    obtain rfl : (call.on w).2 = v := congrArg Prod.snd h
    unfold Circuits.failuresOf
    rw [hcall]
    rfl
  | succeeded => exact absurd rfl hm
  | failed =>
    obtain rfl : ((g.fail key).on w).2 = v := congrArg Prod.snd h
    exact failuresOf_fail g key w
  | slept attempt =>
    obtain ⟨delay, u, hdelay, hslept⟩ := h
    obtain rfl : ((g.backoff attempt).on w).2 = u := congrArg Prod.snd hdelay
    obtain rfl : ((Effect.sleep delay).on ((g.backoff attempt).on w).2).2 = v := congrArg Prod.snd hslept
    exact congrArg (Circuits.failuresOf · key) (circuits_backoff g attempt w)

theorem failuresOf_moves {ms : List (Move α)} {w v : World σ τ}
    (hcall : ∀ w, (call.on w).2.circuits.find key = w.circuits.find key) (h : Moves g key call ms w v)
    (hms : .succeeded ∉ ms) :
    v.circuits.failuresOf key = w.circuits.failuresOf key + ms.countP Move.isFailure := by
  induction ms generalizing w with
  | nil =>
    obtain rfl : v = w := h
    simp
  | cons m ms ih =>
    obtain ⟨u, hm, hrest⟩ := h
    rw [ih hrest (fun hmem => hms (List.mem_cons_of_mem m hmem)),
      failuresOf_move hcall hm (fun heq => hms (by simp [heq])), List.countP_cons]
    omega

theorem trace_failures (attempt : Nat) (passing : List Fault) (ending : Ending α) :
    (trace attempt passing ending).countP Move.isFailure = passing.length + ending.failures := by
  induction passing generalizing attempt with
  | nil => cases ending <;> rfl
  | cons e es ih =>
    simp only [trace, List.countP_cons, ih, Move.isFailure, List.length_cons, Bool.false_eq_true, if_false,
      if_true]
    omega

theorem succeeded_not_mem_trace (attempt : Nat) (passing : List Fault) {ending : Ending α}
    (h : ∀ a, ending ≠ .returned a) : .succeeded ∉ trace attempt passing ending := by
  induction passing generalizing attempt with
  | nil =>
    cases ending with
    | returned a => exact absurd rfl (h a)
    | raised e => simp [trace, Ending.moves]
    | rejected => simp [trace, Ending.moves]
  | cons e es ih => simpa [trace] using ih (attempt + 1)

theorem find_moves_returned {passing : List Fault} {a : α} {w v : World σ τ}
    (h : Moves g key call (trace attempt passing (.returned a)) w v) : v.circuits.find key = none := by
  induction passing generalizing attempt w with
  | nil =>
    obtain ⟨-, -, u, -, x, hx, rfl⟩ := h
    obtain rfl : ((succeed key).on u).2 = v := congrArg Prod.snd hx
    rw [find_succeed, if_pos rfl]
  | cons e es ih =>
    obtain ⟨-, -, -, -, -, -, z, -, hrest⟩ := h
    exact ih hrest

/-- A retried call follows exactly one trace: up to the last, every attempt is let through, fails in a way
that may pass, is counted and waited after; the last one returns, fails for good or is rejected. After a
returned value the key has no entry; otherwise its entry counts the failures on top of those before. -/
theorem retry_trace (g : Guard τ) (key : String) (call : Act σ τ α) {attempts : Int} (hleast : 1 ≤ attempts)
    (hmost : attempts ≤ 1024) (hlimit : g.HasFiniteLimit)
    (hcall : ∀ w, (call.on w).2.circuits.find key = w.circuits.find key) (w : World σ τ) :
    ∃ passing ending, g.Retried key call 1 attempts.toNat none w ((g.retry key attempts call).on w)
        passing ending ∧
      (∀ passing' ending', g.Retried key call 1 attempts.toNat none w ((g.retry key attempts call).on w)
        passing' ending' → passing' = passing ∧ ending' = ending) ∧
      (∀ a, ending = .returned a → ((g.retry key attempts call).on w).2.circuits.find key = none) ∧
      ((∀ a, ending ≠ .returned a) → ((g.retry key attempts call).on w).2.circuits.failuresOf key =
        w.circuits.failuresOf key + (passing.length + ending.failures)) := by
  obtain ⟨left, rfl⟩ : ∃ left : Nat, attempts = left + 1 := ⟨(attempts - 1).toNat, by omega⟩
  have hrun : g.retry key ((left : Int) + 1) call = g.retryFrom key call 1 none left := by
    unfold retry
    rw [if_neg (by omega)]
    congr 1
  rw [hrun]
  obtain ⟨passing, ending, h⟩ :=
    exists_retried hlimit key call none w (show 1 + left ≤ 1024 by omega)
  refine ⟨passing, ending, h, fun passing' ending' h' => h'.unique h, ?_, ?_⟩
  · rintro a rfl
    exact find_moves_returned h.moves
  · intro hending
    rw [failuresOf_moves hcall h.moves (succeeded_not_mem_trace 1 passing hending), trace_failures]

/-- A call that fails once because the server is busy, and then returns, is let through again, and its key
has no entry afterwards. -/
theorem retry_trace_busy_once :
    ∃ (g : Guard Number) (w : World Rehearsal Number), g.HasFiniteLimit ∧
      (∀ v, (Rehearsal.trial.on v).2.circuits.find "a" = v.circuits.find "a") ∧
      ((g.retry "a" 2 Rehearsal.trial).on w).1 = .ok .null ∧
      ((g.retry "a" 2 Rehearsal.trial).on w).2.circuits.find "a" = none ∧
      ∃ passing ending, g.Retried "a" Rehearsal.trial 1 2 none w ((g.retry "a" 2 Rehearsal.trial).on w)
        passing ending := by
  let busy : Fault := .remote .server "busy" "list" (some 503) none none
  let g : Guard Number := ⟨⟨5, 300⟩, none⟩
  let start : World Rehearsal Number :=
    ⟨{ Rehearsal.plain with clock := 1000, outcomes := [(0, .error busy), (0, .ok .null)] }, [],
      ⟨none, none⟩, []⟩
  have hlimit : g.HasFiniteLimit := fun i hi => absurd hi (by simp [g])
  have hcall : ∀ v, (Rehearsal.trial.on v).2.circuits.find "a" = v.circuits.find "a" := by
    intro v
    unfold Rehearsal.trial
    rw [Act.on_bind, Act.on_get, Act.next_ok]
    rcases Rehearsal.draw v.outside.outcomes with _ | ⟨⟨seconds, outcome⟩, rest⟩ <;> rfl
  have hvalue : ((g.retry "a" 2 Rehearsal.trial).on start).1 = .ok .null := rfl
  obtain ⟨passing, ending, h, -, hreturned, -⟩ :=
    retry_trace g "a" Rehearsal.trial (show (1 : Int) ≤ 2 by omega) (by omega) hlimit hcall start
  refine ⟨g, start, hlimit, hcall, hvalue, ?_, passing, ending, h⟩
  have hresult := h.result.symm.trans hvalue
  cases ending with
  | returned a => exact hreturned a rfl
  | raised e => exact absurd hresult (by simp [Ending.result])
  | rejected => exact absurd hresult (by simp [Ending.result])

end Guard

end SessionKeeper

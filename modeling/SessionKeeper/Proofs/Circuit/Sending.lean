import SessionKeeper.Proofs.Circuit.Budget
import SessionKeeper.Proofs.Provider.Talk

/-!
# Retried calls that send one request

* `Act.Sends` : a call that sends one request, and a verdict on what came of it.
* `Sendings` : the events of such a call with further attempts, oldest first, and what it comes to.
* `Guard.retry_sendings` : every run of such a call has these events; after a returned value the key has no entry.
* `Sendings.At`, `Sendings.at_of_split`, `Sendings.few` : what that says about each request that was sent.
* `Guard.retry_unmade` : a call that sends nothing and ends for good sends nothing when it is retried.
-/

namespace SessionKeeper

variable {σ τ α : Type}

/-! ## Waiting -/

namespace Guard

variable [Timeline τ] [Surroundings σ τ]

omit [Timeline τ] in
theorem journal_backoff (g : Guard τ) (attempt : Int) (w : World σ τ) :
    ((g.backoff attempt).on w).2.journal = w.journal := by
  unfold backoff
  rw [Act.on_bind, Act.on_ofExcept]
  cases Backoff.raw (.real 1.0) g.maxBackoff attempt with
  | error e => rfl
  | ok delay => rfl

omit [Timeline τ] in
theorem journal_pause (g : Guard τ) (attempt : Nat) {w v : World σ τ} {outcome : Except Fault Unit}
    (h : (g.pause attempt : Act σ τ Unit).on w = (outcome, v)) :
    (∃ f, outcome = .error f ∧ v.journal = w.journal) ∨
      (outcome = .ok () ∧ ∃ seconds, v.journal = .slept seconds :: w.journal) := by
  have hbackoff := g.journal_backoff attempt w
  unfold pause at h
  rw [Act.on_bind] at h
  rcases hdelay : (g.backoff attempt).on w with ⟨f | delay, u⟩
  · rw [hdelay] at hbackoff h
    cases h
    exact Or.inl ⟨f, rfl, hbackoff⟩
  · rw [hdelay] at hbackoff h
    cases h
    exact Or.inr ⟨rfl, delay, congrArg (Event.slept delay :: ·) hbackoff⟩

end Guard

/-! ## Calls that send one request -/

/-- The call sends the request, whatever the world, and tells by the verdict what came of it. -/
def Act.Sends [Surroundings σ τ] (call : Act σ τ α) (q : Request) (verdict : Exchange → Except Fault α) : Prop :=
  ∀ w, call.on w = (verdict (w.answer q), w.after q)

/-- The request and what came of it, if the event is that one was sent. -/
def Event.sending? : Event τ → Option (Request × Exchange)
  | .sent q x => some (q, x)
  | _ => none

/-- The events of a retried call, oldest first, with up to `left` attempts after the first, and what it comes to. -/
inductive Sendings (key : String) (q : Request) (verdict : Exchange → Except Fault α) :
    Nat → List (Event τ) → Except Fault α → Prop
  | rejected {left : Nat} (last : Option Fault) :
    Sendings key q verdict left [.asked key true] (.error (.circuitOpen key last))
  | returned {left : Nat} {x : Exchange} {a : α} (hverdict : verdict x = .ok a) :
    Sendings key q verdict left [.asked key false, .sent q x, .succeeded key] (.ok a)
  | raised {left : Nat} {x : Exchange} {e : Fault} (f : Fault) (t : τ) (hverdict : verdict x = .error e)
    (hf : f = e ∨ e.isRetryable = true) :
    Sendings key q verdict left [.asked key false, .sent q x, .failed key t] (.error f)
  | again {left : Nat} {x : Exchange} {e : Fault} {news : List (Event τ)} {result : Except Fault α} (t : τ)
    (seconds : Float) (hverdict : verdict x = .error e) (he : e.isRetryable = true)
    (hrest : Sendings key q verdict left news result) :
    Sendings key q verdict (left + 1) (.asked key false :: .sent q x :: .failed key t :: .slept seconds :: news) result

namespace Sendings

variable {key : String} {q q' : Request} {verdict : Exchange → Except Fault α} {left : Nat} {x : Exchange}
  {news before after : List (Event τ)} {result : Except Fault α}

theorem few (h : Sendings key q verdict left news result) :
    (news.filterMap Event.sending?).length ≤ left + 1 := by
  induction h with
  | rejected => simp [List.filterMap_cons, Event.sending?]
  | returned => simp [List.filterMap_cons, Event.sending?]
  | raised => simp [List.filterMap_cons, Event.sending?]
  | again t seconds hverdict he hrest ih => simpa [List.filterMap_cons, Event.sending?] using ih

theorem first (h : Sendings key q verdict left news result) :
    news = [.asked key true] ∨ ∃ x rest, news = .asked key false :: .sent q x :: rest := by
  cases h with
  | rejected => exact Or.inl rfl
  | returned => exact Or.inr ⟨_, _, rfl⟩
  | raised => exact Or.inr ⟨_, _, rfl⟩
  | again => exact Or.inr ⟨_, _, rfl⟩

/-- A request in an attempt is sent right after the question; whatever else was sent came later. -/
theorem split_attempt {y : Exchange} {rest : List (Event τ)}
    (h : .asked key false :: .sent q y :: rest = before ++ .sent q' x :: after) :
    (before = [.asked key false] ∧ q' = q ∧ x = y ∧ after = rest) ∨
      ∃ mid, before = .asked key false :: .sent q y :: mid ∧ rest = mid ++ .sent q' x :: after := by
  rcases before with _ | ⟨e, _ | ⟨e', mid⟩⟩
  · simp at h
  · simp only [List.cons_append, List.nil_append, List.cons.injEq, Event.sent.injEq] at h
    obtain ⟨rfl, ⟨rfl, rfl⟩, rfl⟩ := h
    exact Or.inl ⟨rfl, rfl, rfl, rfl⟩
  · simp only [List.cons_append, List.cons.injEq] at h
    obtain ⟨rfl, rfl, rfl⟩ := h
    exact Or.inr ⟨mid, rfl, rfl⟩

/-- What holds where a request was sent: a question that was not rejected stands right before it, more is sent only
after a failure that may pass, and a verdict that returns a value or fails for good ends the run. -/
structure At (key : String) (q : Request) (verdict : Exchange → Except Fault α) (result : Except Fault α)
    (before : List (Event τ)) (q' : Request) (x : Exchange) (after : List (Event τ)) : Prop where
  same : q' = q
  asked : before.getLast? = some (.asked key false)
  again : (∃ e ∈ after, e.sending?.isSome = true) → ∃ e, verdict x = .error e ∧ e.isRetryable = true
  last : ∀ a, verdict x = .ok a → after = [.succeeded key] ∧ result = .ok a
  gone : ∀ e, verdict x = .error e → e.isRetryable = false → (∃ t, after = [.failed key t]) ∧ result = .error e

theorem at_of_split (h : Sendings key q verdict left news result) (hnews : news = before ++ .sent q' x :: after) :
    At key q verdict result before q' x after := by
  induction h generalizing before with
  | rejected last => rcases before with _ | ⟨e, _ | ⟨e', mid⟩⟩ <;> simp at hnews
  | returned hverdict =>
    rcases split_attempt hnews with ⟨rfl, rfl, rfl, rfl⟩ | ⟨mid, -, hrest⟩
    · refine ⟨rfl, rfl, by simp [Event.sending?], fun a ha => ⟨rfl, ?_⟩, fun e he => ?_⟩
      · rw [← hverdict, ha]
      · cases hverdict.symm.trans he
    · rcases mid with _ | ⟨e, _ | ⟨e', mid⟩⟩ <;> simp at hrest
  | raised f t hverdict hf =>
    rcases split_attempt hnews with ⟨rfl, rfl, rfl, rfl⟩ | ⟨mid, -, hrest⟩
    · refine ⟨rfl, rfl, by simp [Event.sending?], fun a ha => by simp [hverdict] at ha, fun e' he' hgone => ?_⟩
      obtain rfl := Except.error.inj (hverdict.symm.trans he')
      rcases hf with rfl | hretryable
      · exact ⟨⟨t, rfl⟩, rfl⟩
      · simp [hgone] at hretryable
    · rcases mid with _ | ⟨e, _ | ⟨e', mid⟩⟩ <;> simp at hrest
  | again t seconds hverdict he hrest ih =>
    rcases split_attempt hnews with ⟨rfl, rfl, rfl, rfl⟩ | ⟨mid, rfl, hlater⟩
    · refine ⟨rfl, rfl, fun _ => ⟨_, hverdict, he⟩, fun a ha => by simp [hverdict] at ha, fun e' he' hgone => ?_⟩
      obtain rfl := Except.error.inj (hverdict.symm.trans he')
      simp [hgone] at he
    · rcases mid with _ | ⟨e, _ | ⟨e', mid⟩⟩
      · simp at hlater
      · simp at hlater
      · simp only [List.cons_append, List.cons.injEq] at hlater
        obtain ⟨rfl, rfl, hlater⟩ := hlater
        have hrest := ih hlater
        exact { hrest with asked := by simp [List.getLast?_cons, hrest.asked] }

end Sendings

/-! ## Runs -/

namespace Guard

variable [Timeline τ] [Surroundings σ τ]

/-- The events of a retried call that sends one request, by induction on the attempts that are left. -/
theorem retryFrom_sendings (g : Guard τ) (key : String) {call : Act σ τ α} {q : Request}
    {verdict : Exchange → Except Fault α} (hcall : call.Sends q verdict) (attempt : Nat) (last : Option Fault)
    (left : Nat) (w : World σ τ) :
    ∃ news, ((g.retryFrom key call attempt last left).on w).2.journal = news.reverse ++ w.journal ∧
      Sendings key q verdict left news ((g.retryFrom key call attempt last left).on w).1 ∧
      ∀ a, ((g.retryFrom key call attempt last left).on w).1 = .ok a →
        ((g.retryFrom key call attempt last left).on w).2.circuits.find key = none := by
  have hasked {w u : World σ τ} {rejected : Bool} (hask : (g.isOpen key).on w = (rejected, u)) :
      u.journal = .asked key rejected :: w.journal := by
    have hjournal := g.journal_isOpen key w
    rwa [hask] at hjournal
  have hsent {u v : World σ τ} {outcome : Except Fault α} (hrun : call.on u = (outcome, v)) :
      ∃ x, verdict x = outcome ∧ v.journal = .sent q x :: u.journal := by
    rw [hcall u] at hrun
    cases hrun
    exact ⟨_, rfl, rfl⟩
  induction left using Nat.strongRecOn generalizing attempt last w with
  | ind left ih =>
    generalize hrun : (g.retryFrom key call attempt last left).on w = r
    have honward := g.retryFrom_onward key call attempt last left w
    rw [hrun] at honward
    cases honward with
    | rejected hask => exact ⟨_, by rw [hasked hask]; rfl, .rejected last, nofun⟩
    | @returned u v a hask hreturned =>
      obtain ⟨x, hverdict, hjournal⟩ := hsent hreturned
      refine ⟨[.asked key false, .sent q x, .succeeded key], ?_, .returned hverdict, fun _ _ => ?_⟩
      · rw [journal_succeed, hjournal, hasked hask]
        rfl
      · rw [find_succeed, if_pos rfl]
    | @raised u v e hask hraised hend =>
      obtain ⟨x, hverdict, hjournal⟩ := hsent hraised
      refine ⟨[.asked key false, .sent q x, .failed key v.time], ?_, .raised e _ hverdict (Or.inl rfl), nofun⟩
      rw [journal_fail, hjournal, hasked hask]
      rfl
    | @stuck u v z e f n hask hraised he hleft hpause =>
      obtain ⟨x, hverdict, hjournal⟩ := hsent hraised
      rcases g.journal_pause attempt hpause with ⟨-, -, hquiet⟩ | ⟨hwaited, -⟩
      · refine ⟨[.asked key false, .sent q x, .failed key v.time], ?_, .raised f _ hverdict (Or.inr he), nofun⟩
        rw [hquiet, journal_fail, hjournal, hasked hask]
        rfl
      · cases hwaited
    | @again u v z e n hask hraised he hleft hpause =>
      obtain ⟨x, hverdict, hjournal⟩ := hsent hraised
      subst hleft
      obtain ⟨news, hnews, hrest, hforgotten⟩ := ih n (Nat.lt_succ_self n) (attempt + 1) (some e) z
      rcases g.journal_pause attempt hpause with ⟨f, hf, -⟩ | ⟨-, seconds, hslept⟩
      · cases hf
      · refine ⟨_, ?_, .again v.time seconds hverdict he hrest, hforgotten⟩
        rw [hnews, hslept, journal_fail, hjournal, hasked hask]
        simp

theorem retry_eq (g : Guard τ) (key : String) (call : Act σ τ α) {attempts : Int}
    (hleast : 1 ≤ attempts) : g.retry key attempts call = g.retryFrom key call 1 none (attempts.toNat - 1) := by
  unfold retry
  rw [if_neg (by omega)]

theorem retry_sendings (g : Guard τ) (key : String) {call : Act σ τ α} {q : Request}
    {verdict : Exchange → Except Fault α} (hcall : call.Sends q verdict) {attempts : Int} (hleast : 1 ≤ attempts)
    (w : World σ τ) :
    ∃ news, ((g.retry key attempts call).on w).2.journal = news.reverse ++ w.journal ∧
      Sendings key q verdict (attempts.toNat - 1) news ((g.retry key attempts call).on w).1 ∧
      ∀ a, ((g.retry key attempts call).on w).1 = .ok a →
        ((g.retry key attempts call).on w).2.circuits.find key = none := by
  rw [g.retry_eq key call hleast]
  exact g.retryFrom_sendings key hcall 1 none _ w

theorem retry_unmade (g : Guard τ) (key : String) {call : Act σ τ α} {e : Fault}
    (hcall : ∀ w : World σ τ, call.on w = (.error e, w)) (he : e.isRetryable = false) {attempts : Int}
    (hleast : 1 ≤ attempts) (w : World σ τ) :
    ∃ news : List (Event τ), ((g.retry key attempts call).on w).2.journal = news.reverse ++ w.journal ∧
      ∀ e ∈ news, e.sending? = none := by
  have hasked := g.journal_isOpen key w
  rw [g.retry_eq key call hleast]
  rcases hask : (g.isOpen key).on w with ⟨rejected, u⟩
  rw [hask] at hasked
  cases rejected with
  | true =>
    rw [retryFrom_rejected (by rw [hask]), hask]
    exact ⟨[.asked key true], hasked, by simp [Event.sending?]⟩
  | false =>
    rw [retryFrom_raised (by rw [hask]) (by rw [hask, hcall u]) (Or.inl he)]
    refine ⟨[.asked key false, .failed key u.time], ?_, by simp [Event.sending?]⟩
    rw [journal_fail, hasked]
    rfl

end Guard

end SessionKeeper

import SessionKeeper.Proofs.Circuit.Entry

/-!
# The scope of an action

What an action may send and whose circuits it may touch. The scope of an action is read off the way it is
put together, without a look at what the services answer.

* `Scope`, `Scope.Allows` : requests and keys, and the events that stay within them.
* `Advance` : a world that follows another within a scope.
* `Course`, `Guard.Minds` : relations between worlds that hold along plain calls, and along guarded ones; to stay
  within a scope is one of them.
* `Act.Keeps`, `Act.Within` : wherever it is done, an action leads along a relation, or stays within a scope.
* `Guard.keeps_retry`, `Guard.within_retry` : a retried call stays where the call and the key are.
-/

namespace SessionKeeper

variable {σ τ α β : Type} {s s' : Scope} {u v w : World σ τ}

/-! ## Scopes -/

/-- The requests that may be sent, and the keys whose circuits may be touched. -/
structure Scope where
  sends : Request → Prop
  touches : String → Prop

/-- Whether an event stays within a scope; waiting always does. -/
def Scope.Allows (s : Scope) : Event τ → Prop
  | .sent r _ => s.sends r
  | .slept _ => True
  | .asked key _ => s.touches key
  | .succeeded key => s.touches key
  | .failed key _ => s.touches key
  | .pruned _ => False

/-- What happened between two worlds stays within a scope, and so does what became of the circuits. -/
structure Advance (s : Scope) (w v : World σ τ) : Prop where
  journal : ∃ news, v.journal = news ++ w.journal ∧ ∀ e ∈ news, s.Allows e
  circuits : ∀ key, ¬ s.touches key → v.circuits.find key = w.circuits.find key

namespace Advance

theorem refl (s : Scope) (w : World σ τ) : Advance s w w :=
  ⟨⟨[], rfl, by simp⟩, fun _ _ => rfl⟩

theorem trans (huv : Advance s u v) (hvw : Advance s v w) : Advance s u w := by
  obtain ⟨older, holder, hallowed⟩ := huv.journal
  obtain ⟨newer, hnewer, hallowed'⟩ := hvw.journal
  refine ⟨⟨newer ++ older, by rw [hnewer, holder, List.append_assoc], fun e he => ?_⟩, fun key hkey => ?_⟩
  · rcases List.mem_append.mp he with he | he
    · exact hallowed' e he
    · exact hallowed e he
  · exact (hvw.circuits key hkey).trans (huv.circuits key hkey)

theorem suffix (h : Advance s w v) : w.journal <:+ v.journal := by
  obtain ⟨news, hnews, -⟩ := h.journal
  exact ⟨news, hnews.symm⟩

theorem mono (h : Advance s w v) (hsends : ∀ r, s.sends r → s'.sends r)
    (htouches : ∀ key, s.touches key → s'.touches key) : Advance s' w v := by
  obtain ⟨news, hnews, hallowed⟩ := h.journal
  refine ⟨⟨news, hnews, fun e he => ?_⟩, fun key hkey => h.circuits key fun ht => hkey (htouches key ht)⟩
  have hevent : s.Allows e := hallowed e he
  cases e with
  | sent r x => exact hsends r hevent
  | slept seconds => trivial
  | asked key rejected => exact htouches key hevent
  | succeeded key => exact htouches key hevent
  | failed key time => exact htouches key hevent
  | pruned time => exact hevent

theorem of_eq (hjournal : v.journal = w.journal) (hcircuits : v.circuits = w.circuits) : Advance s w v :=
  ⟨⟨[], hjournal, by simp⟩, fun key _ => by rw [hcircuits]⟩

theorem of_event {e : Event τ} (hjournal : v.journal = e :: w.journal) (he : s.Allows e)
    (hcircuits : ∀ key, ¬ s.touches key → v.circuits.find key = w.circuits.find key) : Advance s w v :=
  ⟨⟨[e], hjournal, by simpa using he⟩, hcircuits⟩

end Advance

/-! ## Courses -/

/-- A relation between worlds that holds along whatever sends such requests, waits, and leaves the circuits
alone. -/
structure Course (sends : Request → Prop) (R : World σ τ → World σ τ → Prop) : Prop where
  trans : ∀ {u v w}, R u v → R v w → R u w
  silent : ∀ {w v}, v.journal = w.journal → v.circuits = w.circuits → R w v
  sent : ∀ {w v r x}, sends r → v.journal = .sent r x :: w.journal → v.circuits = w.circuits → R w v
  slept : ∀ {w v} (seconds : Float), v.journal = .slept seconds :: w.journal → v.circuits = w.circuits → R w v

theorem Course.refl {sends : Request → Prop} {R : World σ τ → World σ τ → Prop} (hR : Course sends R)
    (w : World σ τ) : R w w := hR.silent rfl rfl

theorem Advance.course (s : Scope) : Course s.sends (Advance s : World σ τ → World σ τ → Prop) where
  trans := Advance.trans
  silent := Advance.of_eq
  sent hsends hjournal hcircuits := .of_event hjournal hsends fun key _ => by rw [hcircuits]
  slept _ hjournal hcircuits := .of_event hjournal trivial fun key _ => by rw [hcircuits]

/-! ## Actions -/

section

variable {sends : Request → Prop} {R : World σ τ → World σ τ → Prop}

def Effect.Keeps (R : World σ τ → World σ τ → Prop) (e : Effect σ τ α) : Prop := ∀ w, R w (e.on w).2

def Effect.Within (s : Scope) (e : Effect σ τ α) : Prop := ∀ w, Advance s w (e.on w).2

namespace Act

/-- Wherever it is done, an action leads to a world that is so related to the one before. -/
def Keeps (R : World σ τ → World σ τ → Prop) (a : Act σ τ α) : Prop := ∀ w, R w (a.on w).2

/-- Wherever it is done, an action stays within a scope. -/
def Within (s : Scope) (a : Act σ τ α) : Prop := ∀ w, Advance s w (a.on w).2

theorem keeps_pure (hR : Course sends R) (a : α) : (pure a : Act σ τ α).Keeps R := fun w => hR.refl w

theorem keeps_throw (hR : Course sends R) (e : Fault) : (throw e : Act σ τ α).Keeps R := fun w => hR.refl w

theorem keeps_ofExcept (hR : Course sends R) (r : Except Fault α) : (ofExcept r : Act σ τ α).Keeps R :=
  fun w => hR.refl w

theorem keeps_get (hR : Course sends R) : (get : Act σ τ (World σ τ)).Keeps R := fun w => hR.refl w

theorem keeps_ofEffect {e : Effect σ τ α} (h : e.Keeps R) : (ofEffect e).Keeps R := h

theorem keeps_attempt {a : Act σ τ α} (h : a.Keeps R) : a.attempt.Keeps R := h

theorem keeps_bind (hR : Course sends R) {a : Act σ τ α} {f : α → Act σ τ β} (ha : a.Keeps R)
    (hf : ∀ x, (f x).Keeps R) : (a >>= f).Keeps R := by
  intro w
  rw [on_bind]
  have hfirst : R w (a.on w).2 := ha w
  rcases hrun : a.on w with ⟨e | x, v⟩
  · rw [hrun] at hfirst
    exact hfirst
  · rw [hrun] at hfirst
    exact hR.trans hfirst (hf x v)

theorem within_pure (s : Scope) (a : α) : (pure a : Act σ τ α).Within s := keeps_pure (Advance.course s) a

theorem within_bind {a : Act σ τ α} {f : α → Act σ τ β} (ha : a.Within s) (hf : ∀ x, (f x).Within s) :
    (a >>= f).Within s := keeps_bind (Advance.course s) ha hf

end Act

namespace Effect

variable [Surroundings σ τ]

theorem keeps_exchange (hR : Course sends R) {r : Request} (h : sends r) :
    (exchange r : Effect σ τ Exchange).Keeps R :=
  fun w => hR.sent (x := (Surroundings.exchange r w.outside).1) h rfl rfl

theorem keeps_sleep (hR : Course sends R) (seconds : Float) : (sleep seconds : Effect σ τ Unit).Keeps R :=
  fun _ => hR.slept seconds rfl rfl

theorem keeps_chance (hR : Course sends R) : (chance : Effect σ τ Float).Keeps R := fun _ => hR.silent rfl rfl

theorem keeps_milliseconds (hR : Course sends R) : (milliseconds : Effect σ τ Int).Keeps R :=
  fun _ => hR.silent rfl rfl

end Effect

end

/-! ## Guarded calls -/

namespace Guard

variable [Timeline τ] [Surroundings σ τ] {key : String}

theorem within_isOpen (g : Guard τ) (h : s.touches key) : (g.isOpen key : Effect σ τ Bool).Within s := by
  intro w
  refine .of_event (g.journal_isOpen key w) h fun other hother => ?_
  rw [find_isOpen, if_neg (fun heq => hother (by rw [heq]; exact h))]

omit [Timeline τ] [Surroundings σ τ] in
theorem within_succeed (h : s.touches key) : (succeed key : Effect σ τ Unit).Within s := by
  intro w
  refine .of_event (journal_succeed key w) h fun other hother => ?_
  rw [find_succeed, if_neg (fun heq => hother (by rw [heq]; exact h))]

omit [Timeline τ] in
theorem within_fail (g : Guard τ) (h : s.touches key) : (g.fail key : Effect σ τ Unit).Within s := by
  intro w
  refine .of_event (g.journal_fail key w) h fun other hother => ?_
  rw [find_fail, if_neg (fun heq => hother (by rw [heq]; exact h))]

omit [Timeline τ] in
theorem within_record (g : Guard τ) (h : s.touches key) (outcome : Except Fault α) :
    (g.record key outcome : Effect σ τ Unit).Within s := by
  cases outcome with
  | ok a => exact within_succeed h
  | error e => exact g.within_fail h

/-- The relation holds along attempts under the key: along a rejected question, and along a question that lets a
call through, with whatever leads along the relation after it, and the record of an outcome. -/
structure Minds (g : Guard τ) (key : String) (R : World σ τ → World σ τ → Prop) : Prop where
  rejected : ∀ {w u}, (g.isOpen key).on w = (true, u) → R w u
  passed : ∀ {α : Type} {w u v} (outcome : Except Fault α), (g.isOpen key).on w = (false, u) → R u v →
    R w ((g.record key outcome).on v).2

/-- It is enough that the relation holds along the question and along the record, each for itself. -/
theorem Minds.of_steps {g : Guard τ} {R : World σ τ → World σ τ → Prop} (htrans : ∀ {u v w}, R u v → R v w → R u w)
    (hask : ∀ w, R w ((g.isOpen key).on w).2)
    (hrecord : ∀ {α : Type} (outcome : Except Fault α) (w), R w ((g.record key outcome).on w).2) : g.Minds key R where
  rejected {w u} hrejected := by
    have hasked := hask w
    rwa [hrejected] at hasked
  passed {α w u v} outcome hpassed hcall := by
    have hasked := hask w
    rw [hpassed] at hasked
    exact htrans (htrans hasked hcall) (hrecord outcome v)

theorem minds_advance (g : Guard τ) (h : s.touches key) :
    g.Minds key (Advance s : World σ τ → World σ τ → Prop) :=
  .of_steps Advance.trans (g.within_isOpen h) (g.within_record h)

section

variable {sends : Request → Prop} {R : World σ τ → World σ τ → Prop} (hR : Course sends R)

include hR

omit [Timeline τ] in
theorem keeps_backoff (g : Guard τ) (attempt : Int) : (g.backoff attempt : Act σ τ Float).Keeps R :=
  Act.keeps_bind hR (Act.keeps_ofExcept hR _) fun _ =>
    Act.keeps_bind hR (Act.keeps_ofEffect (Effect.keeps_chance hR)) fun _ => Act.keeps_ofExcept hR _

omit [Timeline τ] in
theorem keeps_pause (g : Guard τ) (attempt : Nat) : (g.pause attempt : Act σ τ Unit).Keeps R :=
  Act.keeps_bind hR (keeps_backoff hR g attempt) fun delay => Act.keeps_ofEffect (Effect.keeps_sleep hR delay)

variable {g : Guard τ} {call : Act σ τ α} (hkey : g.Minds key R) (hcall : call.Keeps R)

include hkey hcall

omit hR in
theorem keeps_trial (last : Option Fault) : (g.trial key call last).Keeps R := by
  intro w
  unfold trial
  rw [Act.on_bind, Act.on_ofEffect]
  rcases hask : (g.isOpen key).on w with ⟨rejected, u⟩
  cases rejected with
  | true => exact hkey.rejected hask
  | false => exact hkey.passed (call.on u).1 hask (hcall u)

theorem keeps_retryFrom (attempt : Nat) (last : Option Fault) (left : Nat) :
    (g.retryFrom key call attempt last left).Keeps R := by
  induction left generalizing attempt last with
  | zero => exact Act.keeps_bind hR (keeps_trial hkey hcall last) fun outcome => Act.keeps_ofExcept hR outcome
  | succ left ih =>
    refine Act.keeps_bind hR (keeps_trial hkey hcall last) fun outcome => ?_
    cases outcome with
    | ok a => exact Act.keeps_pure hR a
    | error e =>
      dsimp only
      split_ifs
      · exact Act.keeps_bind hR (keeps_pause hR g attempt) fun _ => ih (attempt + 1) (some e)
      · exact Act.keeps_throw hR e

theorem keeps_retry (attempts : Int) : (g.retry key attempts call).Keeps R := by
  unfold retry
  split_ifs
  · exact Act.keeps_throw hR _
  · exact keeps_retryFrom hR hkey hcall 1 none _

end

theorem within_retry (g : Guard τ) {call : Act σ τ α} (hkey : s.touches key) (hcall : call.Within s)
    (attempts : Int) : (g.retry key attempts call).Within s :=
  keeps_retry (Advance.course s) (g.minds_advance hkey) hcall attempts

end Guard

end SessionKeeper

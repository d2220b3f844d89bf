import SessionKeeper.Proofs.Answers
import SessionKeeper.Proofs.Pass.Run

/-!
# The chain of tokens

Every message to the provider carries the key that the last successful renewal gave, or the configured token as long
as there was none. A request renews the token at most once, and only after the refusal of its first message.

* `Message.key?`, `Message.latest` : the key that a message gave, and the token in use after some messages.
* `Message.Chained`, `Provider.Spoken` : messages that carry the token in use; what was said between two worlds.
* `Provider.Use`, `Provider.afterUses` : calls, renewals and renewals on schedule, one after the other.
* `Provider.Asked` : how one request went.
* `Provider.token_chain` : the chain holds after whatever was done, and the next request goes that way.
* `Provider.refusal_unshown` : a refusal that is not told as one.
-/

namespace SessionKeeper

variable {σ τ : Type}

namespace Provider

/-! ## Keys -/

namespace Message

/-- The key that a message gave, if it is a renewal that succeeded. -/
def key? : Message → Option String
  | call .. => none
  | renewal r x => (Keyring.verdict r x).toOption

def latest (token : Option String) (ms : List Message) : Option String :=
  ms.foldl (fun token m => m.key?.or token) token

/-- Each of the messages carries the token in use. -/
def Chained : Option String → List Message → Prop
  | _, [] => True
  | token, m :: ms => m.request.token = token ∧ Chained (m.key?.or token) ms

@[simp] theorem latest_nil (token : Option String) : latest token [] = token := rfl

@[simp] theorem latest_cons (token : Option String) (m : Message) (ms : List Message) :
    latest token (m :: ms) = latest (m.key?.or token) ms := rfl

theorem latest_append (token : Option String) (ms ms' : List Message) :
    latest token (ms ++ ms') = latest (latest token ms) ms' := List.foldl_append

theorem chained_append {token : Option String} {ms ms' : List Message} :
    Chained token (ms ++ ms') ↔ Chained token ms ∧ Chained (latest token ms) ms' := by
  induction ms generalizing token with
  | nil => simp [Chained]
  | cons m ms ih => simp [Chained, ih, and_assoc]

theorem Chained.presents {token : Option String} {earlier later : List Message} {m : Message}
    (h : Chained token (earlier ++ m :: later)) : m.request.token = latest token earlier :=
  (chained_append.mp h).2.1

@[simp] theorem key_call (r : Request) (x : Exchange) : (call r x).key? = none := rfl

theorem key_renewal (r : Request) (x : Exchange) : (renewal r x).key? = (Keyring.verdict r x).toOption := rfl

theorem verdict_ne (r : Request) (x : Exchange) : Keyring.verdict r x ≠ .ok "" := by
  unfold Keyring.verdict
  split
  · unfold Keyring.keyOf
    split
    · split_ifs with hempty
      · simp
      · intro h
        rw [Except.ok.inj h] at hempty
        exact hempty rfl
    · simp
  · simp

theorem key_ne (m : Message) : m.key? ≠ some "" := by
  cases m with
  | call r x => simp [key?]
  | renewal r x =>
    intro h
    rw [key_renewal] at h
    cases hverdict : Keyring.verdict r x with
    | error e =>
      rw [hverdict] at h
      cases h
    | ok key =>
      rw [hverdict] at h
      exact verdict_ne r x (hverdict.trans (congrArg Except.ok (Option.some.inj h)))

theorem latest_ne {token : Option String} (h : token ≠ some "") (ms : List Message) : latest token ms ≠ some "" := by
  induction ms generalizing token with
  | nil => exact h
  | cons m ms ih =>
    have hnext : m.key?.or token ≠ some "" := by
      cases hkey : m.key? with
      | none => exact h
      | some key => exact fun hempty => key_ne m (hkey.trans hempty)
    exact ih hnext

end Message

theorem shown_eq {c : Credential} (h : c.current? ≠ some "") : c.shown? = c.current? := by
  unfold Credential.shown?
  cases hcurrent : c.current? with
  | none => rfl
  | some token =>
    have hfilled : token ≠ "" := fun hempty => h (by rw [hcurrent, hempty])
    simp [Option.filter_some, hfilled]

/-- A renewal that succeeds is one message, and its key is the next token. -/
theorem given_of_talk [Surroundings σ τ] {k : Keyring} {w v : World σ τ} {ms : List Message} {key : String}
    (h : k.Talk w ms (.ok key) v) : ∃ old q y, ms = [.renewal q y] ∧ w.credential.current? = some old ∧
      (k.call old).request = .ok q ∧ Keyring.verdict q y = .ok key ∧ v.credential.shown? = some key := by
  cases h with
  | issued htoken hcall hverdict =>
    refine ⟨_, _, _, rfl, htoken, hcall, hverdict, shown_eq fun hempty => ?_⟩
    have hkey : key = "" := by simpa [Credential.current?] using hempty
    exact Message.verdict_ne _ _ (hkey ▸ hverdict)

theorem none_of_talk [Surroundings σ τ] {k : Keyring} {w v : World σ τ} {ms : List Message} {cause : Fault}
    (h : k.Talk w ms (.error cause) v) : ms.length ≤ 1 ∧ ∀ m ∈ ms, m.isCall = false ∧ m.key? = none := by
  cases h with
  | missing => simp
  | unsent => simp
  | failed _ _ hverdict => simp [Message.key_renewal, hverdict, Except.toOption]

/-! ## What was said -/

/-- What was said to the provider between two worlds: some calls and renewals, each with the token in use, which only
a renewal that succeeds replaces. -/
structure Spoken (p : Provider) (asks : Call → Prop) (w : World σ τ) (ms : List Message) (v : World σ τ) : Prop where
  journal : v.journal = Message.events ms ++ w.journal
  calls : ∀ r x, .call r x ∈ ms → ∃ c, asks c ∧ c.Carries r
  renewals : ∀ r x, .renewal r x ∈ ms → ∃ token, (p.keyring.call token).request = .ok r
  chained : Message.Chained w.credential.current? ms
  token : v.credential.current? = Message.latest w.credential.current? ms

namespace Spoken

variable {p : Provider} {asks : Call → Prop} {u v w : World σ τ} {ms ms' : List Message}

theorem refl (p : Provider) (asks : Call → Prop) (w : World σ τ) : p.Spoken asks w [] w where
  journal := rfl
  calls := by simp
  renewals := by simp
  chained := trivial
  token := rfl

theorem trans (h : p.Spoken asks w ms v) (h' : p.Spoken asks v ms' u) : p.Spoken asks w (ms ++ ms') u where
  journal := by rw [h'.journal, h.journal, Message.events_append, List.append_assoc]
  calls r x hmem := (List.mem_append.mp hmem).elim (h.calls r x) (h'.calls r x)
  renewals r x hmem := (List.mem_append.mp hmem).elim (h.renewals r x) (h'.renewals r x)
  chained := Message.chained_append.mpr ⟨h.chained, by rw [← h.token]; exact h'.chained⟩
  token := by rw [h'.token, h.token, Message.latest_append]

theorem proper (h : p.Spoken asks w ms v) (hw : w.credential.current? ≠ some "") :
    v.credential.current? ≠ some "" := by
  rw [h.token]
  exact Message.latest_ne hw ms

variable [Surroundings σ τ]

theorem call {c : Call} {r : Request} (hw : w.credential.current? ≠ some "") (hc : asks c)
    (hcall : (c.bearing w.credential.shown?).request = .ok r) :
    p.Spoken asks w [.call r (w.answer r)] (w.after r) where
  journal := rfl
  calls := by simpa using ⟨c, hc, _, _, hcall⟩
  renewals := by simp
  chained := ⟨(Call.request_token hcall).trans (shown_eq hw), trivial⟩
  token := rfl

theorem of_renewal {outcome : Except Fault String} (h : p.keyring.Talk w ms outcome v) : p.Spoken asks w ms v := by
  have hrenewals (m : Message) (hm : m ∈ ms) :
      ∃ r x, m = .renewal r x ∧ ∃ token, (p.keyring.call token).request = .ok r := by
    obtain ⟨token, r, x, rfl, hcall⟩ := h.renewals m hm
    exact ⟨r, x, rfl, token, hcall⟩
  refine { journal := h.journal, calls := ?calls, renewals := ?renewals, chained := ?chained, token := ?token }
  case calls =>
    intro r x hmem
    obtain ⟨_, _, heq, -⟩ := hrenewals _ hmem
    cases heq
  case renewals =>
    intro r x hmem
    obtain ⟨_, _, heq, hcall⟩ := hrenewals _ hmem
    exact (Message.renewal.inj heq).1 ▸ hcall
  case chained =>
    cases h with
    | missing => trivial
    | unsent => trivial
    | failed htoken hcall _ => exact ⟨(Call.request_token hcall).trans htoken.symm, trivial⟩
    | issued htoken hcall _ => exact ⟨(Call.request_token hcall).trans htoken.symm, trivial⟩
  case token =>
    cases h with
    | missing => rfl
    | unsent => rfl
    | failed _ _ hverdict => simp [Message.key_renewal, hverdict, Except.toOption]
    | issued _ _ hverdict => simp [Message.key_renewal, hverdict, Except.toOption, Credential.current?]

theorem of_talk {c : Call} {outcome : Except Fault Reply} (h : p.Talk c w ms outcome v) (hc : asks c)
    (hw : w.credential.current? ≠ some "") : p.Spoken asks w ms v := by
  cases h with
  | unsent => exact .refl p asks _
  | settled hcall => exact .call hw hc hcall
  | unrenewed hcall _ _ hrenewal => exact (call hw hc hcall).trans (of_renewal hrenewal)
  | unrepeated hcall _ _ hrenewal => exact (call hw hc hcall).trans (of_renewal hrenewal)
  | repeated hcall _ _ hrenewal hagain =>
    have hrenewed := (call (p := p) hw hc hcall).trans (of_renewal hrenewal)
    exact hrenewed.trans (call (hrenewed.proper hw) hc hagain)

end Spoken

/-! ## Uses of the token -/

/-- What uses the token: a call, a renewal, or a renewal on schedule. -/
inductive Use where
  | call (c : Call)
  | renewal
  | scheduled

variable [Surroundings σ τ]

def afterUse (p : Provider) (w : World σ τ) : Use → World σ τ
  | .call c => ((p.request c).on w).2
  | .renewal => (p.keyring.renew.on w).2
  | .scheduled => (p.keyring.renewOnSchedule.on w).2

def afterUses (p : Provider) (w : World σ τ) (uses : List Use) : World σ τ := uses.foldl p.afterUse w

theorem scheduled_world (p : Provider) (w : World σ τ) :
    (p.keyring.renewOnSchedule.on w).2 = w ∨ (p.keyring.renewOnSchedule.on w).2 = (p.keyring.renew.on w).2 := by
  unfold Keyring.renewOnSchedule
  rw [Act.on_bind, Act.on_get, Act.next_ok]
  split_ifs
  · exact Or.inl rfl
  · refine Or.inr ?_
    rw [Act.on_bind, Act.on_attempt, Act.next_ok]
    rcases (p.keyring.renew : Act σ τ String).on w with ⟨e | key, v⟩
    · cases e <;> rfl
    · rfl

theorem spoken_use (p : Provider) {asks : Call → Prop} {w : World σ τ} (hw : w.credential.current? ≠ some "") (u : Use)
    (hu : ∀ c, u = .call c → asks c) : ∃ ms, p.Spoken asks w ms (p.afterUse w u) := by
  obtain ⟨ms, hrenewal⟩ := p.keyring.renew_talk w
  cases u with
  | call c =>
    obtain ⟨ms, htalk⟩ := p.request_talk c w
    exact ⟨ms, .of_talk htalk (hu c rfl) hw⟩
  | renewal => exact ⟨ms, .of_renewal hrenewal⟩
  | scheduled =>
    show ∃ ms, p.Spoken asks w ms (p.keyring.renewOnSchedule.on w).2
    rcases p.scheduled_world w with hsame | hrenewed
    · rw [hsame]
      exact ⟨[], .refl p asks w⟩
    · rw [hrenewed]
      exact ⟨ms, .of_renewal hrenewal⟩

theorem spoken_uses (p : Provider) {asks : Call → Prop} {w : World σ τ} (hw : w.credential.current? ≠ some "")
    (uses : List Use) (huses : ∀ c, .call c ∈ uses → asks c) : ∃ ms, p.Spoken asks w ms (p.afterUses w uses) := by
  induction uses generalizing w with
  | nil => exact ⟨[], .refl p asks w⟩
  | cons u uses ih =>
    obtain ⟨ms, hfirst⟩ := p.spoken_use hw u fun c hc => huses c (hc ▸ List.mem_cons_self)
    obtain ⟨ms', hrest⟩ := ih (hfirst.proper hw) fun c hc => huses c (List.mem_cons_of_mem u hc)
    exact ⟨ms ++ ms', hfirst.trans hrest⟩

/-! ## One request -/

/-- Every key that a renewal gave in the journal can stand in the head of a request. -/
def IssuesPlain (p : Provider) (js : List (Event τ)) : Prop :=
  ∀ old r x key, (p.keyring.call old).request = .ok r → .sent r x ∈ js → Keyring.verdict r x = .ok key →
    isPlainText key = true

/-- How one request goes: its messages and its outcome, with the token in use before it. -/
structure Asked (p : Provider) (c : Call) (token : Option String) (ms : List Message) (outcome : Except Fault Reply) :
    Prop where
  calls : ∀ r x, .call r x ∈ ms → c.Carries r
  few : ms.countP (·.isCall) ≤ 2 ∧ ms.countP (!·.isCall) ≤ 1
  unsent : ∀ e, (c.bearing token).request = .error e → ms = [] ∧ outcome = .error e
  sent : ∀ r, (c.bearing token).request = .ok r → ∃ x rest, ms = .call r x :: rest
  /-- An exchange that does not refuse the token settles the request. -/
  settled : ∀ r x rest, ms = .call r x :: rest → (∀ m, ¬ x.EndsIn r.url c.operation 401 m) →
    rest = [] ∧ outcome = x.outcome r.url c.operation
  /-- A refused token is renewed, if there is one. -/
  renewed : ∀ r x rest m old q, ms = .call r x :: rest → x.EndsIn r.url c.operation 401 m → token = some old →
    (p.keyring.call old).request = .ok q → ∃ y, .renewal q y ∈ rest
  /-- The call is sent once more if and only if the first answer was a refusal and a renewal gave a key. -/
  again : ms.countP (·.isCall) = 2 ↔
    (∃ r reply rest, ms = .call r (.received reply) :: rest ∧ reply.status = 401) ∧ ∃ m ∈ ms, m.key?.isSome
  /-- The second call carries the new key, and what comes of it is the outcome. -/
  second : ∀ first rest r x, ms = first :: rest ++ [.call r x] →
    (∃ key, r.token = some key ∧ ∃ m ∈ rest, m.key? = some key) ∧ outcome = x.outcome r.url c.operation
  /-- A refusal that no renewal mends is the outcome, with the failure of the renewal as its cause, unless that was
  none of a remote call. -/
  unmended : ∀ r x rest m, ms = .call r x :: rest → x.EndsIn r.url c.operation 401 m → (∀ n ∈ rest, n.key? = none) →
    (token = none → rest = []) ∧
    ((∃ why cause, outcome = .error (withCause (.call .unauthorized m c.operation (some 401)) (.renewal why cause))) ∨
      ∃ f old, outcome = .error f ∧ f.isOwn = false ∧ token = some old ∧ ((p.keyring.call old).request = .error f ∨
        ∃ q y, .renewal q y ∈ rest ∧ y.value q.url Keyring.operation = .error f))

namespace Asked

variable {p : Provider} {c : Call} {w v : World σ τ} {r r' : Request} {x x' : Exchange} {m : String}

theorem of_settled {token : Option String} (hcall : (c.bearing token).request = .ok r)
    (hanswer : ∀ e, x.outcome r.url c.operation = .error e → e.isRefusal = false) :
    p.Asked c token [.call r x] (x.outcome r.url c.operation) := by
  have hkind (m : String) : ¬ x.EndsIn r.url c.operation 401 m := fun h => by cases hanswer _ h.outcome
  exact {
    calls := by simpa using Call.carries_of_bearing hcall
    few := by simp
    unsent := by simp [hcall]
    sent := by simp [hcall]
    settled := by simp +contextual
    renewed := by
      rintro _ _ _ m _ _ ⟨rfl, rfl, rfl⟩ hrefused
      exact absurd hrefused (hkind m)
    again := by simp
    second := by simp
    unmended := by
      rintro _ _ _ m ⟨rfl, rfl, rfl⟩ hrefused
      exact absurd hrefused (hkind m) }

theorem of_unrenewed {renewal : List Message} {cause : Fault} {u : World σ τ}
    (hcall : (c.bearing u.credential.current?).request = .ok r) (hends : x.EndsIn r.url c.operation 401 m)
    (hrenewal : p.keyring.Talk u renewal (.error cause) v) :
    p.Asked c u.credential.current? (.call r x :: renewal)
      (.error (blame (.call .unauthorized m c.operation (some 401)) cause)) := by
  obtain ⟨hlength, hnone⟩ := none_of_talk hrenewal
  have hcalls : renewal.countP (·.isCall) = 0 := by
    rw [List.countP_eq_zero]
    intro n hn
    simp [(hnone n hn).1]
  have hrenewals : renewal.countP (!·.isCall) ≤ 1 := Nat.le_trans List.countP_le_length hlength
  exact {
    calls := by
      intro r' x' hmem
      rcases List.mem_cons.mp hmem with heq | hmem
      · obtain ⟨rfl, rfl⟩ := Message.call.inj heq
        exact Call.carries_of_bearing hcall
      · cases (hnone _ hmem).1
    few := by simp [List.countP_cons, hcalls, hrenewals]
    unsent := by simp [hcall]
    sent := by simp [hcall]
    settled := by
      rintro _ _ _ ⟨rfl, rfl, rfl⟩ hother
      exact absurd hends (hother m)
    renewed := by
      rintro _ _ _ _ old q ⟨rfl, rfl, rfl⟩ - htoken hq
      cases hrenewal with
      | missing hmissing => simp [htoken] at hmissing
      | unsent hold hunsent =>
        obtain rfl := Option.some.inj (htoken.symm.trans hold)
        simp [hq] at hunsent
      | failed hold hsent _ =>
        obtain rfl := Option.some.inj (htoken.symm.trans hold)
        obtain rfl := Except.ok.inj (hq.symm.trans hsent)
        exact ⟨_, List.mem_singleton_self _⟩
    again := by
      constructor
      · intro htwo
        simp [List.countP_cons, hcalls] at htwo
      · rintro ⟨-, n, hn, hkey⟩
        rcases List.mem_cons.mp hn with rfl | hn
        · cases hkey
        · simp [(hnone n hn).2] at hkey
    second := by
      intro first rest r' x' hms
      rw [List.cons_append] at hms
      have hmem : Message.call r' x' ∈ renewal := by simp [(List.cons.inj hms).2]
      cases (hnone _ hmem).1
    unmended := by
      rintro _ _ _ m' ⟨rfl, rfl, rfl⟩ hends' -
      obtain rfl := hends.message_eq hends'
      refine ⟨fun htoken => ?_, ?_⟩
      · cases hrenewal with
        | missing => rfl
        | unsent hold => simp [htoken] at hold
        | failed hold => simp [htoken] at hold
      · rcases hrenewal.cause with ⟨why, cause', rfl⟩ | ⟨hstray, old, htoken, hwhy⟩
        · exact Or.inl ⟨why, cause', rfl⟩
        · rw [blame_stray hstray]
          exact Or.inr ⟨cause, old, rfl, hstray, htoken, hwhy⟩ }

omit [Surroundings σ τ] in
theorem of_repeated {old key : String} {q : Request} {y : Exchange}
    (hcall : (c.bearing (some old)).request = .ok r) (hends : x.EndsIn r.url c.operation 401 m)
    (hq : (p.keyring.call old).request = .ok q) (hverdict : Keyring.verdict q y = .ok key)
    (hagain : (c.bearing (some key)).request = .ok r') :
    p.Asked c (some old) [.call r x, .renewal q y, .call r' x'] (x'.outcome r'.url c.operation) := by
  have hkey : (Message.renewal q y).key? = some key := by rw [Message.key_renewal, hverdict]; rfl
  exact {
    calls := by
      intro r'' x'' hmem
      rcases (by simpa using hmem : r'' = r ∧ x'' = x ∨ r'' = r' ∧ x'' = x') with ⟨rfl, -⟩ | ⟨rfl, -⟩
      · exact Call.carries_of_bearing hcall
      · exact Call.carries_of_bearing hagain
    few := by simp [List.countP_cons]
    unsent := by simp [hcall]
    sent := by simp [hcall]
    settled := by
      rintro _ _ _ ⟨rfl, rfl, rfl⟩ hother
      exact absurd hends (hother m)
    renewed := by
      rintro _ _ _ _ _ _ ⟨rfl, rfl, rfl⟩ - ⟨rfl⟩ hq'
      obtain rfl := Except.ok.inj (hq.symm.trans hq')
      exact ⟨y, List.mem_cons_self⟩
    again := by
      obtain ⟨reply, rfl, hstatus, -⟩ := hends.received
      simp [List.countP_cons, hkey, hstatus]
    second := by
      intro first rest r'' x'' hms
      rw [List.cons_append] at hms
      have hrest : [Message.renewal q y] ++ [.call r' x'] = rest ++ [.call r'' x''] := (List.cons.inj hms).2
      obtain ⟨rfl, hlast⟩ := List.append_inj' hrest rfl
      obtain ⟨rfl, rfl⟩ : r' = r'' ∧ x' = x'' := by simpa using hlast
      exact ⟨⟨key, Call.request_token hagain, _, List.mem_singleton_self _, hkey⟩, rfl⟩
    unmended := by
      rintro _ _ _ _ ⟨rfl, rfl, rfl⟩ - hnone
      have := hnone _ List.mem_cons_self
      rw [hkey] at this
      cases this }

theorem of_talk {ms : List Message} {outcome : Except Fault Reply} (h : p.Talk c w ms outcome v)
    (hw : w.credential.current? ≠ some "") (hplain : p.IssuesPlain v.journal) :
    p.Asked c w.credential.current? ms outcome := by
  have hshown := shown_eq hw
  have hjournal := h.journal
  cases h with
  | unsent hcall =>
    rw [hshown] at hcall
    exact {
      calls := by simp
      few := by simp
      unsent := by simp [hcall]
      sent := by simp [hcall]
      settled := by simp
      renewed := by simp
      again := by simp
      second := by simp
      unmended := by simp }
  | settled hcall hanswer =>
    rw [hshown] at hcall
    exact of_settled hcall hanswer
  | unrenewed hcall hanswer hrefusal hrenewal =>
    rw [hshown] at hcall
    obtain ⟨m, hends, rfl⟩ := Exchange.endsIn_of_isRefusal hanswer hrefusal
    exact of_unrenewed (u := w.after _) hcall hends hrenewal
  | unrepeated hcall _ _ hrenewal hagain =>
    obtain ⟨old, q, y, rfl, -, hq, hverdict, hkey⟩ := given_of_talk hrenewal
    have hwritten : isPlainText _ = true := hplain old q y _ hq (by simp [hjournal, Message.event]) hverdict
    obtain ⟨r', hwritable⟩ := (Call.carries_of_bearing hcall).bearing
      (show (some _ : Option String).all isPlainText = true by simpa using hwritten)
    rw [hkey] at hagain
    cases hagain.symm.trans hwritable
  | repeated hcall hanswer hrefusal hrenewal hagain =>
    obtain ⟨m, hends, rfl⟩ := Exchange.endsIn_of_isRefusal hanswer hrefusal
    obtain ⟨old, q, y, rfl, htoken, hq, hverdict, hkey⟩ := given_of_talk hrenewal
    rw [World.credential_after] at htoken
    rw [hshown, htoken] at hcall
    rw [hkey] at hagain
    rw [htoken]
    exact of_repeated hcall hends hq hverdict hagain

end Asked

/-! ## The chain -/

/-- **Every message carries the newest key, and a request renews the token once at most.** Whatever was done from the
start on, the messages that were sent, and those of one more request, carry the key of the last renewal before them
that succeeded, or the configured token if there was none; so does the credential afterwards. The one more request
goes as `Asked` says. -/
theorem token_chain (p : Provider) {w : World σ τ} {token : Option String} (hstart : w.credential = ⟨token, none⟩)
    (htoken : token ≠ some "") (uses : List Use) (c : Call)
    (hkeys : p.IssuesPlain (p.afterUse (p.afterUses w uses) (.call c)).journal) :
    ∃ said ms,
      p.Spoken (fun c => .call c ∈ uses) w said (p.afterUses w uses) ∧
      p.Spoken (· = c) (p.afterUses w uses) ms (p.afterUse (p.afterUses w uses) (.call c)) ∧
      (∀ earlier m later, said ++ ms = earlier ++ m :: later → m.request.token = Message.latest token earlier) ∧
      (p.afterUse (p.afterUses w uses) (.call c)).credential.current? = Message.latest token (said ++ ms) ∧
      p.Asked c (Message.latest token said) ms ((p.request c).on (p.afterUses w uses)).1 := by
  have hfirst : w.credential.current? = token := by rw [hstart]; rfl
  have hw : w.credential.current? ≠ some "" := hfirst ▸ htoken
  obtain ⟨said, hsaid⟩ := p.spoken_uses hw uses fun c hc => hc
  obtain ⟨ms, htalk⟩ := p.request_talk c (p.afterUses w uses)
  have hproper := hsaid.proper hw
  have hms : p.Spoken (· = c) (p.afterUses w uses) ms (p.afterUse (p.afterUses w uses) (.call c)) :=
    .of_talk htalk rfl hproper
  have hasked := Asked.of_talk htalk hproper hkeys
  have hmiddle : (p.afterUses w uses).credential.current? = Message.latest token said := by rw [hsaid.token, hfirst]
  rw [hmiddle] at hasked
  refine ⟨said, ms, hsaid, hms, fun earlier m later hsplit => ?_, ?_, hasked⟩
  · have hchained : Message.Chained token (said ++ ms) :=
      Message.chained_append.mpr ⟨hfirst ▸ hsaid.chained, hmiddle ▸ hms.chained⟩
    rw [hsplit] at hchained
    exact hchained.presents
  · rw [hms.token, hmiddle, Message.latest_append]

end Provider

/-! ## A run -/

/-- The key that an event would give if it were a renewal. -/
def Event.key? : Event τ → Option String
  | .sent r x => (Keyring.verdict r x).toOption
  | _ => none

theorem Provider.issuesPlain_of_keys {p : Provider} {js : List (Event τ)}
    (h : ∀ e ∈ js, e.key?.all isPlainText = true) : p.IssuesPlain js := by
  intro old r x key _ hsent hverdict
  simpa [Event.key?, hverdict, Except.toOption] using h _ hsent

/-- The provider gives two keys, and refuses the first call. -/
def Rehearsal.rotating : Rehearsal :=
  let key (s : String) : Json := .object [("key", .text s)]
  { plain with
    routes := [
      ("POST /api/v2/users/me/tokens", [answer 201 (key "first"), answer 201 (key "second")]),
      ("GET /api/v2/workspaces", [answer 401 .null, answer 200 (.list [])])] }

/-- A token is renewed, and the new one is refused and renewed in turn. -/
theorem Provider.token_chain_rotating :
    let p := Keeper.confirming.provider
    let w : World Rehearsal Number := { Rehearsal.rotating.world with credential := ⟨some "old", none⟩ }
    ∃ said ms, said.length = 1 ∧ ms.length = 3 ∧ Message.latest (some "old") said = some "first" ∧
      Message.latest (some "old") (said ++ ms) = some "second" ∧
      p.Asked (p.pageCall none) (some "first") ms ((p.request (p.pageCall none)).on (p.afterUses w [.renewal])).1 := by
  intro p w
  let c := p.pageCall none
  have hrun : let v := p.afterUses w [.renewal]
      let u := p.afterUse v (.call c)
      v.journal.length = 1 ∧ u.journal.length = 4 ∧ v.credential.current? = some "first" ∧
        u.credential.current? = some "second" ∧ ∀ e ∈ u.journal, e.key?.all isPlainText = true := by
    decide +kernel
  obtain ⟨hone, hfour, hfirst, hsecond, hkeys⟩ := hrun
  obtain ⟨said, ms, hsaid, hms, -, hlatest, hasked⟩ :=
    p.token_chain rfl (by decide) [.renewal] c (issuesPlain_of_keys hkeys)
  have hmiddle : Message.latest (some "old") said = some "first" := hsaid.token.symm.trans hfirst
  rw [hmiddle] at hasked
  rw [hms.journal, List.length_append, hone, Message.length_events] at hfour
  rw [hsaid.journal, List.length_append, Message.length_events] at hone
  have hstart : w.journal.length = 0 := rfl
  exact ⟨said, ms, by omega, by omega, hmiddle, hlatest.symm.trans hsecond, hasked⟩

/-- The provider refuses every call, with a body that cannot be shown. -/
def Rehearsal.hissing : Rehearsal := { plain with routes := [("*", [.unshown 401])] }

/-- Without a token, a refusal with such a body is not told as one. -/
theorem Provider.refusal_unshown :
    let p := Keeper.confirming.provider
    let run := (p.request (p.pageCall none)).on Rehearsal.hissing.world
    Rehearsal.hissing.world.credential.current? = none ∧
      ∃ q x, run.2.journal = [.sent q x] ∧ x.status? = some 401 ∧
        ¬ ∃ m operation status issues cause,
          run.1 = .error (.remote .unauthorized m operation status issues cause) := by
  intro p run
  have hfails : (p.request (p.pageCall none)).Raises Rehearsal.hissing.world fun e v =>
      e.isRefusal = false ∧ v.journal.map Event.status? = [some 401] := by
    decide +kernel
  obtain ⟨e, he, hother, hjournal⟩ := hfails.exists_on
  obtain ⟨event, hone, hstatus⟩ := List.map_eq_singleton_iff.mp hjournal
  cases event with
  | sent q x =>
    refine ⟨rfl, q, x, hone, hstatus, ?_⟩
    rintro ⟨m, operation, status, issues, cause, hrefusal⟩
    obtain rfl := Except.error.inj (he.symm.trans hrefusal)
    cases hother
  | _ => cases hstatus

end SessionKeeper

import SessionKeeper.Proofs.Requests

/-!
# Talking to the provider

One request to the provider takes up to three messages: the call, a renewal of the token when that is refused, and
the call once more.

* `World.answer`, `World.after` : what comes of a request, and the world after it.
* `Provider.Message`, `Keyring.verdict` : a call or a renewal with its answer; what the answer to a renewal comes to.
* `Keyring.Talk`, `Provider.Talk` : the messages of a renewal and of a request, how it ends, and the world after it.
* `Keyring.renew_talk`, `Provider.request_talk` : every renewal and every request is such a talk.
* `Fault.Only`, `Call.request_only`, `Exchange.outcome_error` : what a call and an exchange can fail of.
-/

namespace SessionKeeper

variable {σ τ α : Type}

/-! ## Sending a request -/

section

variable [Surroundings σ τ]

def World.answer (w : World σ τ) (r : Request) : Exchange := (Surroundings.exchange r w.outside).1

def World.after (w : World σ τ) (r : Request) : World σ τ :=
  { w with outside := (Surroundings.exchange r w.outside).2, journal := .sent r (w.answer r) :: w.journal }

@[simp] theorem World.journal_after (w : World σ τ) (r : Request) :
    (w.after r).journal = .sent r (w.answer r) :: w.journal := rfl

@[simp] theorem World.credential_after (w : World σ τ) (r : Request) : (w.after r).credential = w.credential := rfl

theorem Call.send_sent {c : Call} {r : Request} (h : c.request = .ok r) (w : World σ τ) :
    (c.send : Act σ τ Reply).on w = ((w.answer r).outcome r.url c.operation, w.after r) := by
  unfold send
  rw [Act.on_bind, Act.on_ofExcept, h, Act.next_ok, Act.on_bind, Act.on_ofEffect, Act.next_ok, Act.on_ofExcept]
  rfl

end

namespace Call

/-- The call as the provider is sent it, with a token. -/
def bearing (c : Call) (token : Option String) : Call := { c with accept := Keyring.acceptedType, token := token }

theorem request_token {c : Call} {r : Request} (h : c.request = .ok r) : r.token = c.token := by
  obtain ⟨url, rfl⟩ := request_parts h
  rfl

def destination (c : Call) : Except Fault Url := do
  let url ← Url.parse c.address.toList
  let url ← url.resolved
  c.params.elim (.ok url) url.withQuery

def isWritten (c : Call) : Bool :=
  isWritable c.address && c.token.all isPlainText && (c.params.map Json.object).all Json.isWritable &&
    c.body.all Json.isWritable

theorem request_eq_ok {c : Call} {r : Request} : c.request = .ok r ↔
    ∃ url, c.destination = .ok url ∧ c.isWritten = true ∧ r = ⟨c.method, url, c.accept, c.token, c.body⟩ := by
  have hrequest : c.request = (do
      let url ← c.destination
      if c.isWritten then .ok ⟨c.method, url, c.accept, c.token, c.body⟩ else .error .unwritable) := by
    unfold request destination
    simp only [bind_assoc]
    rfl
  rw [hrequest]
  cases c.destination with
  | error e => simp [bind, Except.bind]
  | ok url => cases c.isWritten <;> simp [bind, Except.bind, eq_comm]

theorem request_plain {c : Call} {r : Request} (h : c.request = .ok r) : c.token.all isPlainText = true := by
  obtain ⟨-, -, hwritten, -⟩ := request_eq_ok.mp h
  simp only [isWritten, Bool.and_eq_true] at hwritten
  exact hwritten.1.1.2

/-- Whether a call can be written as a request depends on its token only as far as that must be plain text. -/
theorem Carries.exists_request {c : Call} {r : Request} (h : c.Carries r) (htoken : c.token.all isPlainText = true) :
    ∃ r', c.request = .ok r' := by
  obtain ⟨accept, token', hr⟩ := h
  obtain ⟨url, hurl, hwritten, -⟩ := request_eq_ok.mp hr
  refine ⟨_, request_eq_ok.mpr ⟨url, hurl, ?_, rfl⟩⟩
  simp only [isWritten, Bool.and_eq_true] at hwritten ⊢
  exact ⟨⟨⟨hwritten.1.1.1, htoken⟩, hwritten.1.2⟩, hwritten.2⟩

theorem Carries.bearing {c : Call} {r : Request} {token : Option String} (h : c.Carries r)
    (htoken : token.all isPlainText = true) : ∃ r', (c.bearing token).request = .ok r' :=
  Carries.exists_request (c := c.bearing token) h htoken

theorem carries_of_bearing {c : Call} {r : Request} {token : Option String} (h : (c.bearing token).request = .ok r) :
    c.Carries r := ⟨Keyring.acceptedType, token, h⟩

end Call

/-! ## Calls that cannot be written -/

/-- Whatever a pure step fails of has the property. -/
def Fault.Only (P : Fault → Prop) (x : Except Fault α) : Prop := ∀ e, x = .error e → P e

namespace Fault.Only

variable {P Q : Fault → Prop} {β : Type}

theorem ok (a : α) : Only P (.ok a : Except Fault α) := fun _ h => by cases h

theorem error {e : Fault} (h : P e) : Only P (.error e : Except Fault α) := by
  intro f hf
  obtain rfl : e = f := Except.error.inj hf
  exact h

theorem bind {x : Except Fault α} {f : α → Except Fault β} (hx : Only P x) (hf : ∀ a, x = .ok a → Only P (f a)) :
    Only P (x >>= f) := by
  cases x with
  | error e => exact error (hx e rfl)
  | ok a => exact hf a rfl

theorem imp {x : Except Fault α} (h : Only P x) (hPQ : ∀ e, P e → Q e) : Only Q x := fun e he => hPQ e (h e he)

theorem mapM {f : β → Except Fault α} {xs : List β} (h : ∀ x ∈ xs, Only P (f x)) : Only P (xs.mapM f) := by
  induction xs with
  | nil => exact ok []
  | cons x xs ih =>
    rw [List.mapM_cons]
    exact bind (h x List.mem_cons_self) fun _ _ =>
      bind (ih fun y hy => h y (List.mem_cons_of_mem x hy)) fun _ _ => ok _

end Fault.Only

/-- Whether a fault is that of a call that cannot be written as a request. -/
def Fault.isUnwritable : Fault → Bool
  | badUrl _ => true
  | unwritable => true
  | _ => false

theorem Fault.isOwn_of_isUnwritable {e : Fault} (h : e.isUnwritable = true) : e.isOwn = false := by
  cases e <;> cases h <;> rfl

namespace Url

theorem checkText_only (cs : List Char) : Fault.Only (·.isUnwritable = true) (checkText cs) := by
  unfold checkText
  split_ifs
  · exact .error rfl
  · split
    · exact .error rfl
    · exact .ok ()

theorem refusedHost_unwritable (host : List Char) : (refusedHost host).isUnwritable = true := by
  unfold refusedHost
  split_ifs
  · rfl
  · rfl
  · rfl

theorem elim_only {β : Type} {e : Fault} (x : Option β) (h : e.isUnwritable = true) :
    Fault.Only (·.isUnwritable = true) (x.elim (.error e) .ok : Except Fault β) := by
  cases x with
  | none => exact .error h
  | some b => exact .ok b

theorem checkPath_only (hasScheme hasAuthority : Bool) (path : List Char) :
    Fault.Only (·.isUnwritable = true) (checkPath hasScheme hasAuthority path) := by
  unfold checkPath
  split_ifs
  · exact .error rfl
  · exact .error rfl
  · exact .error rfl
  · exact .ok ()

theorem normal_only (p : Parts) : Fault.Only (·.isUnwritable = true) p.normal := by
  unfold Parts.normal
  refine .bind (elim_only _ (refusedHost_unwritable _)) fun host _ => ?_
  refine .bind (elim_only _ rfl) fun port _ => ?_
  exact .bind (checkPath_only _ _ _) fun _ _ => .ok _

theorem ofParts_only (p : Parts) : Fault.Only (·.isUnwritable = true) (ofParts p) := by
  unfold ofParts
  split
  · exact .error rfl
  · exact normal_only p

end Url

theorem Call.request_only (c : Call) : Fault.Only (·.isUnwritable = true) c.request := by
  unfold request
  refine .bind (.bind (Url.checkText_only _) fun _ _ => Url.normal_only _) fun url _ => ?_
  refine .bind ?_ fun url _ => .bind ?_ fun url _ => ?_
  · unfold Url.resolved
    split_ifs
    · exact .ok url
    · exact Url.ofParts_only _
  · cases c.params with
    | none => exact .ok url
    | some fields => exact Url.ofParts_only _
  · split_ifs
    · exact .ok _
    · exact .error rfl

/-! ## Answers -/

theorem ContentType.charset_only (cs : List Char) : Fault.Only (·.isOwn = false) (ContentType.charset cs) := by
  unfold charset charsetName
  refine .bind (.bind ?_ fun spread _ => .ok _) fun name _ => .ok _
  unfold segmented
  dsimp only
  split_ifs
  · exact .error rfl
  · exact .ok _

namespace Reply

theorem isOwn_faultOfText (f : Text.Charset.Failure) : (faultOfText f).isOwn = false := by
  unfold faultOfText
  split <;> rfl

/-- The body is nested more deeply than can be read. -/
def IsTooDeep (r : Reply) : Prop := Json.ofOctets r.room r.body = .error .tooDeep

/-- A body has no value because it is malformed, which is a failure of the call, or because it is nested too deeply. -/
theorem value_error {r : Reply} {operation : String} {e : Fault} (h : r.value operation = .error e) :
    (∃ m, e = .call .format m operation (some r.status)) ∨ (e = .tooDeep ∧ r.IsTooDeep) := by
  unfold value at h
  split_ifs at h
  split at h
  · cases h
  · exact Or.inl ⟨_, (Except.error.inj h).symm⟩
  · rename_i hdeep
    exact Or.inr ⟨(Except.error.inj h).symm, hdeep⟩

theorem IsTooDeep.value {r : Reply} (h : r.IsTooDeep) (operation : String) : r.value operation = .error .tooDeep := by
  unfold Reply.value
  rw [if_neg, h]
  intro hempty
  rw [IsTooDeep, List.isEmpty_iff.mp hempty] at h
  cases h

theorem failureMessage_only (r : Reply) (operation : String) :
    Fault.Only (·.isOwn = false) (r.failureMessage operation) := by
  unfold failureMessage
  dsimp only
  split_ifs
  · exact .ok _
  · refine .bind ?_ fun text _ => .ok _
    unfold text charset
    refine .bind ?_ fun set _ => ?_
    · cases r.contentType with
      | none => exact .ok _
      | some t => exact .bind (ContentType.charset_only _) fun set _ => .ok _
    · cases set.decode r.body with
      | error f => exact .error (isOwn_faultOfText f)
      | ok cs => exact .ok cs

end Reply

/-- The exchange ends with a status from 400 on: its answer can be taken, and its body shown. -/
structure Exchange.EndsIn (x : Exchange) (url : Url) (operation : String) (status : Int) (m : String) : Prop where
  received : ∃ reply, x = .received reply ∧ reply.status = status ∧ reply.failureMessage operation = .ok m
  absolute : url.isAbsolute = true
  refused : 400 ≤ status

theorem Exchange.EndsIn.outcome {x : Exchange} {url : Url} {operation m : String} {status : Int}
    (h : x.EndsIn url operation status m) :
    x.outcome url operation = .error (.call (.ofStatus status) m operation (some status)) := by
  obtain ⟨reply, rfl, rfl, hshown⟩ := h.received
  have hrefused : reply.isAccepted = false := by simpa [Reply.isAccepted] using h.refused
  show reply.outcome url operation = _
  unfold Reply.outcome Reply.failure
  rw [h.absolute, hrefused, hshown]
  rfl

theorem Exchange.EndsIn.message_eq {x : Exchange} {url : Url} {operation m m' : String} {status : Int}
    (h : x.EndsIn url operation status m) (h' : x.EndsIn url operation status m') : m = m' := by
  have hsame := h.outcome.symm.trans h'.outcome
  simp only [Fault.call, Except.error.injEq, Fault.remote.injEq] at hsame
  exact hsame.2.1

/-- What an exchange fails of: it ends with a status from 400 on, there is no answer, or none that can be taken. -/
theorem Exchange.outcome_error {x : Exchange} {url : Url} {operation : String} {e : Fault}
    (h : x.outcome url operation = .error e) :
    (∃ status m, x.EndsIn url operation status m ∧ e = .call (.ofStatus status) m operation (some status)) ∨
    (∃ m, e = .call .network m operation none) ∨ e.isOwn = false := by
  cases x with
  | received reply =>
    have hreply : reply.outcome url operation = .error e := h
    unfold Reply.outcome at hreply
    split_ifs at hreply with hurl haccepted
    · exact Or.inr (Or.inr (by rw [← Except.error.inj hreply]; rfl))
    · obtain rfl : reply.failure operation = e := Except.error.inj hreply
      unfold Reply.failure
      cases hshown : reply.failureMessage operation with
      | ok m =>
        exact Or.inl ⟨reply.status, m, {
          received := ⟨reply, rfl, rfl, hshown⟩
          absolute := by simpa using hurl
          refused := by simpa [Reply.isAccepted] using haccepted }, rfl⟩
      | error f => exact Or.inr (Or.inr (Reply.failureMessage_only reply operation f hshown))
  | lost m => exact Or.inr (Or.inl ⟨_, (Except.error.inj h).symm⟩)
  | undecodable m status => exact Or.inr (Or.inr (by rw [← Except.error.inj h]; rfl))
  | tooManyRedirects m status => exact Or.inr (Or.inr (by rw [← Except.error.inj h]; rfl))
  | closed => exact Or.inr (Or.inr (by rw [← Except.error.inj h]; rfl))

def Exchange.value (x : Exchange) (url : Url) (operation : String) : Except Fault Json := do
  let reply ← x.outcome url operation
  reply.value operation

theorem Exchange.value_ok {x : Exchange} {url : Url} {operation : String} {data : Json}
    (h : x.value url operation = .ok data) :
    ∃ reply, x.outcome url operation = .ok reply ∧ reply.value operation = .ok data := by
  unfold value at h
  cases houtcome : x.outcome url operation with
  | error e =>
    rw [houtcome] at h
    cases h
  | ok reply =>
    rw [houtcome] at h
    exact ⟨reply, rfl, h⟩

/-- An exchange brings no value because its answer is none, or because the answer has none. -/
theorem Exchange.value_error_cases {x : Exchange} {url : Url} {operation : String} {e : Fault}
    (h : x.value url operation = .error e) : x.outcome url operation = .error e ∨
      ∃ reply, x.outcome url operation = .ok reply ∧ reply.value operation = .error e := by
  unfold value at h
  cases houtcome : x.outcome url operation with
  | error f =>
    rw [houtcome] at h
    obtain rfl : f = e := Except.error.inj h
    exact Or.inl rfl
  | ok reply =>
    rw [houtcome] at h
    exact Or.inr ⟨reply, rfl, h⟩

theorem Exchange.value_error {x : Exchange} {url : Url} {operation : String} {e : Fault}
    (h : x.value url operation = .error e) : (∃ kind m op status, e = .call kind m op status) ∨ e.isOwn = false := by
  rcases value_error_cases h with houtcome | ⟨reply, -, hvalue⟩
  · rcases outcome_error houtcome with ⟨status, m, -, rfl⟩ | ⟨m, rfl⟩ | hstray
    · exact Or.inl ⟨_, _, _, _, rfl⟩
    · exact Or.inl ⟨_, _, _, _, rfl⟩
    · exact Or.inr hstray
  · rcases Reply.value_error hvalue with ⟨m, rfl⟩ | ⟨rfl, -⟩
    · exact Or.inl ⟨_, _, _, _, rfl⟩
    · exact Or.inr rfl

def Fault.isRefusal : Fault → Bool
  | remote .unauthorized .. => true
  | _ => false

theorem Fault.isOwn_of_isRefusal {e : Fault} (h : e.isRefusal = true) : e.isOwn = true := by
  unfold isRefusal at h
  split at h
  · rfl
  · cases h

theorem Exchange.endsIn_of_isRefusal {x : Exchange} {url : Url} {operation : String} {e : Fault}
    (h : x.outcome url operation = .error e) (hrefusal : e.isRefusal = true) :
    ∃ m, x.EndsIn url operation 401 m ∧ e = .call .unauthorized m operation (some 401) := by
  rcases outcome_error h with ⟨status, m, hends, rfl⟩ | ⟨m, rfl⟩ | hstray
  · have hstatus : status = 401 := by
      by_contra hother
      unfold RemoteKind.ofStatus at hrefusal
      split_ifs at hrefusal <;> cases hrefusal
    subst hstatus
    exact ⟨m, hends, rfl⟩
  · cases hrefusal
  · rw [Fault.isOwn_of_isRefusal hrefusal] at hstray
    cases hstray

theorem Call.fetch_sent [Surroundings σ τ] {c : Call} {r : Request} (h : c.request = .ok r) (w : World σ τ) :
    (c.fetch : Act σ τ Json).on w = ((w.answer r).value r.url c.operation, w.after r) := by
  unfold fetch Exchange.value
  rw [Act.on_bind, Call.send_sent h]
  cases (w.answer r).outcome r.url c.operation with
  | error e => rfl
  | ok reply => rfl

/-! ## Messages -/

namespace Provider

/-- A message to the provider and what came of it: a call, or the renewal of the token. -/
inductive Message where
  | call (request : Request) (exchange : Exchange)
  | renewal (request : Request) (exchange : Exchange)

namespace Message

def request : Message → Request
  | call r _ => r
  | renewal r _ => r

def isCall : Message → Bool
  | call .. => true
  | renewal .. => false

@[simp] theorem isCall_call (r : Request) (x : Exchange) : (call r x).isCall = true := rfl

@[simp] theorem isCall_renewal (r : Request) (x : Exchange) : (renewal r x).isCall = false := rfl

def event : Message → Event τ
  | call r x => .sent r x
  | renewal r x => .sent r x

/-- What the journal keeps of some messages, newest first. -/
def events (ms : List Message) : List (Event τ) := (ms.map event).reverse

@[simp] theorem events_nil : events [] = ([] : List (Event τ)) := rfl

@[simp] theorem events_cons (m : Message) (ms : List Message) :
    (events (m :: ms) : List (Event τ)) = events ms ++ [m.event] := by simp [events]

@[simp] theorem events_append (ms ms' : List Message) :
    (events (ms ++ ms') : List (Event τ)) = events ms' ++ events ms := by simp [events]

@[simp] theorem length_events (ms : List Message) : (events ms : List (Event τ)).length = ms.length := by simp [events]

theorem mem_events {ms : List Message} {m : Message} (h : m ∈ ms) : m.event ∈ (events ms : List (Event τ)) := by
  simpa [events] using ⟨m, h, rfl⟩

end Message

end Provider

/-! ## Renewals -/

namespace Keyring

/-- What the answer to a renewal comes to: a key, or the fault of the renewal. -/
def verdict (r : Request) (x : Exchange) : Except Fault String :=
  match x.value r.url operation with
  | .ok data => keyOf data
  | .error e => .error (asRenewal e)

theorem asRenewal_stray {e : Fault} (h : e.isOwn = false) : asRenewal e = e := by
  cases e with
  | remote => cases h
  | _ => rfl

theorem keyOf_error {data : Json} {e : Fault} (h : keyOf data = .error e) : e = .renewal emptyMessage none := by
  unfold keyOf at h
  split at h
  · split_ifs at h
    exact (Except.error.inj h).symm
  · exact (Except.error.inj h).symm

/-- A renewal fails as such, unless its answer has no value for something that is no failure of a remote call. -/
theorem verdict_error {r : Request} {x : Exchange} {e : Fault} (h : verdict r x = .error e) :
    (∃ why cause, e = .renewal why cause) ∨ (e.isOwn = false ∧ x.value r.url operation = .error e) := by
  unfold verdict at h
  cases hvalue : x.value r.url operation with
  | error f =>
    rw [hvalue] at h
    obtain rfl : asRenewal f = e := Except.error.inj h
    rcases Exchange.value_error hvalue with ⟨_, _, _, _, rfl⟩ | hstray
    · exact Or.inl ⟨_, _, rfl⟩
    · rw [asRenewal_stray hstray]
      exact Or.inr ⟨hstray, rfl⟩
  | ok data =>
    rw [hvalue] at h
    exact Or.inl ⟨_, _, keyOf_error h⟩

variable [Surroundings σ τ]

/-- The messages of a renewal, its outcome, and the world after it. -/
inductive Talk (k : Keyring) (w : World σ τ) : List Provider.Message → Except Fault String → World σ τ → Prop
  | missing (htoken : w.credential.current? = none) : Talk k w [] (.error (.renewal missingMessage none)) w
  | unsent {token : String} {e : Fault} (htoken : w.credential.current? = some token)
    (hcall : (k.call token).request = .error e) : Talk k w [] (.error (asRenewal e)) w
  | failed {token : String} {r : Request} {e : Fault} (htoken : w.credential.current? = some token)
    (hcall : (k.call token).request = .ok r) (hverdict : verdict r (w.answer r) = .error e) :
    Talk k w [.renewal r (w.answer r)] (.error e) (w.after r)
  | issued {token : String} {r : Request} {key : String} (htoken : w.credential.current? = some token)
    (hcall : (k.call token).request = .ok r) (hverdict : verdict r (w.answer r) = .ok key) :
    Talk k w [.renewal r (w.answer r)] (.ok key)
      { w.after r with credential := { w.credential with renewed := some key } }

omit [Surroundings σ τ] in
theorem call_operation (k : Keyring) (token : String) : (k.call token).operation = operation := rfl

theorem renew_talk (k : Keyring) (w : World σ τ) : ∃ ms, k.Talk w ms (k.renew.on w).1 (k.renew.on w).2 := by
  unfold renew
  rw [Act.on_bind, Act.on_get, Act.next_ok]
  cases htoken : w.credential.current? with
  | none => exact ⟨[], .missing htoken⟩
  | some token =>
    dsimp only
    rw [Act.on_bind, Act.on_attempt, Act.next_ok]
    cases hcall : (k.call token).request with
    | error e =>
      have hfetch : ((k.call token).fetch : Act σ τ Json).on w = (.error e, w) := by
        unfold Call.fetch
        rw [Act.on_bind, Call.send_unmade hcall, Act.next_error]
      rw [hfetch]
      exact ⟨[], .unsent htoken hcall⟩
    | ok r =>
      rw [Call.fetch_sent hcall, call_operation]
      cases hdata : (w.answer r).value r.url operation with
      | error e =>
        have hverdict : verdict r (w.answer r) = .error (asRenewal e) := by rw [verdict, hdata]
        exact ⟨_, .failed htoken hcall hverdict⟩
      | ok data =>
        have hverdict : verdict r (w.answer r) = keyOf data := by rw [verdict, hdata]
        dsimp only
        rw [Act.on_bind, Act.on_pure, Act.next_ok, Act.on_bind, Act.on_ofExcept]
        cases hkey : keyOf data with
        | error e => exact ⟨_, .failed htoken hcall (hverdict.trans hkey)⟩
        | ok key => exact ⟨_, .issued htoken hcall (hverdict.trans hkey)⟩

namespace Talk

variable {k : Keyring} {w v : World σ τ} {ms : List Provider.Message} {outcome : Except Fault String}

theorem journal (h : k.Talk w ms outcome v) : v.journal = Provider.Message.events ms ++ w.journal := by
  cases h with
  | missing => rfl
  | unsent => rfl
  | failed => rfl
  | issued => rfl

theorem renewals (h : k.Talk w ms outcome v) :
    ∀ m ∈ ms, ∃ token r x, m = .renewal r x ∧ (k.call token).request = .ok r := by
  cases h with
  | missing => simp
  | unsent => simp
  | failed _ hcall _ => simpa using ⟨_, hcall⟩
  | issued _ hcall _ => simpa using ⟨_, hcall⟩

theorem cause {e : Fault} (h : k.Talk w ms (.error e) v) :
    (∃ why cause, e = .renewal why cause) ∨
      (e.isOwn = false ∧ ∃ old, w.credential.current? = some old ∧ ((k.call old).request = .error e ∨
        ∃ r x, .renewal r x ∈ ms ∧ x.value r.url operation = .error e)) := by
  cases h with
  | missing => exact Or.inl ⟨_, _, rfl⟩
  | unsent htoken hcall =>
    have hstray := Fault.isOwn_of_isUnwritable (Call.request_only _ _ hcall)
    rw [asRenewal_stray hstray]
    exact Or.inr ⟨hstray, _, htoken, Or.inl hcall⟩
  | failed htoken hcall hverdict =>
    rcases verdict_error hverdict with hrenewal | ⟨hstray, hvalue⟩
    · exact Or.inl hrenewal
    · exact Or.inr ⟨hstray, _, htoken, Or.inr ⟨_, _, List.mem_singleton_self _, hvalue⟩⟩

end Talk

end Keyring

/-! ## Requests -/

namespace Provider

/-- What becomes of the refusal of a token when the renewal fails. -/
def blame (e cause : Fault) : Fault :=
  match cause with
  | .renewal .. => withCause e cause
  | _ => cause

theorem blame_stray {e cause : Fault} (h : cause.isOwn = false) : blame e cause = cause := by
  cases cause with
  | renewal => cases h
  | _ => rfl

variable [Surroundings σ τ]

/-- The messages of a request, its outcome, and the world after it. -/
inductive Talk (p : Provider) (c : Call) (w : World σ τ) : List Message → Except Fault Reply → World σ τ → Prop
  | unsent {e : Fault} (hcall : (c.bearing w.credential.shown?).request = .error e) : Talk p c w [] (.error e) w
  | settled {r : Request} (hcall : (c.bearing w.credential.shown?).request = .ok r)
    (hanswer : ∀ e, (w.answer r).outcome r.url c.operation = .error e → e.isRefusal = false) :
    Talk p c w [.call r (w.answer r)] ((w.answer r).outcome r.url c.operation) (w.after r)
  | unrenewed {r : Request} {e cause : Fault} {renewal : List Message} {v : World σ τ}
    (hcall : (c.bearing w.credential.shown?).request = .ok r)
    (hanswer : (w.answer r).outcome r.url c.operation = .error e) (hrefusal : e.isRefusal = true)
    (hrenewal : p.keyring.Talk (w.after r) renewal (.error cause) v) :
    Talk p c w (.call r (w.answer r) :: renewal) (.error (blame e cause)) v
  | unrepeated {r : Request} {e f : Fault} {renewal : List Message} {key : String} {v : World σ τ}
    (hcall : (c.bearing w.credential.shown?).request = .ok r)
    (hanswer : (w.answer r).outcome r.url c.operation = .error e) (hrefusal : e.isRefusal = true)
    (hrenewal : p.keyring.Talk (w.after r) renewal (.ok key) v)
    (hagain : (c.bearing v.credential.shown?).request = .error f) :
    Talk p c w (.call r (w.answer r) :: renewal) (.error f) v
  | repeated {r r' : Request} {e : Fault} {renewal : List Message} {key : String} {v : World σ τ}
    (hcall : (c.bearing w.credential.shown?).request = .ok r)
    (hanswer : (w.answer r).outcome r.url c.operation = .error e) (hrefusal : e.isRefusal = true)
    (hrenewal : p.keyring.Talk (w.after r) renewal (.ok key) v)
    (hagain : (c.bearing v.credential.shown?).request = .ok r') :
    Talk p c w (.call r (w.answer r) :: (renewal ++ [.call r' (v.answer r')]))
      ((v.answer r').outcome r'.url c.operation) (v.after r')

theorem sendOnce_unsent {c : Call} {w : World σ τ} {e : Fault}
    (h : (c.bearing w.credential.shown?).request = .error e) : (sendOnce c : Act σ τ Reply).on w = (.error e, w) :=
  Call.send_unmade h w

theorem sendOnce_sent {c : Call} {w : World σ τ} {r : Request}
    (h : (c.bearing w.credential.shown?).request = .ok r) :
    (sendOnce c : Act σ τ Reply).on w = ((w.answer r).outcome r.url c.operation, w.after r) :=
  Call.send_sent h w

/-- A request as one equation: only the refusal of a token is followed by more. -/
theorem request_eq (p : Provider) (c : Call) (w : World σ τ) :
    (p.request c).on w =
      match (sendOnce c : Act σ τ Reply).on w with
      | (.ok reply, v) => (.ok reply, v)
      | (.error e, v) =>
        if e.isRefusal then
          match (p.keyring.renew : Act σ τ String).on v with
          | (.ok _, u) => (sendOnce c).on u
          | (.error cause, u) => (.error (blame e cause), u)
        else (.error e, v) := by
  unfold request
  rw [Act.on_bind, Act.on_attempt, Act.next_ok]
  rcases (sendOnce c : Act σ τ Reply).on w with ⟨e | reply, v⟩
  · by_cases hrefusal : e.isRefusal
    · obtain ⟨m, op, status, issues, cause, rfl⟩ : ∃ m op status issues cause,
          e = .remote .unauthorized m op status issues cause := by
        unfold Fault.isRefusal at hrefusal
        split at hrefusal
        · exact ⟨_, _, _, _, _, rfl⟩
        · cases hrefusal
      dsimp only
      rw [if_pos hrefusal, Act.on_bind, Act.on_attempt, Act.next_ok]
      rcases (p.keyring.renew : Act σ τ String).on v with ⟨f | key, u⟩
      · cases f <;> rfl
      · rfl
    · dsimp only
      rw [if_neg hrefusal]
      unfold Fault.isRefusal at hrefusal
      split
      · exact absurd rfl hrefusal
      · rfl
  · rfl

theorem request_talk (p : Provider) (c : Call) (w : World σ τ) :
    ∃ ms, p.Talk c w ms ((p.request c).on w).1 ((p.request c).on w).2 := by
  rw [request_eq]
  cases hcall : (c.bearing w.credential.shown?).request with
  | error e =>
    have hkind : e.isRefusal = false := by
      by_contra hrefusal
      have hown := Fault.isOwn_of_isRefusal (by simpa using hrefusal)
      rw [Fault.isOwn_of_isUnwritable (Call.request_only _ e hcall)] at hown
      cases hown
    rw [sendOnce_unsent hcall]
    dsimp only
    rw [if_neg (by rw [hkind]; exact Bool.false_ne_true)]
    exact ⟨[], .unsent hcall⟩
  | ok r =>
    have hsettled : (∀ e, (w.answer r).outcome r.url c.operation = .error e → e.isRefusal = false) →
        p.Talk c w [.call r (w.answer r)] ((w.answer r).outcome r.url c.operation) (w.after r) := .settled hcall
    rw [sendOnce_sent hcall]
    cases hanswer : (w.answer r).outcome r.url c.operation with
    | ok reply =>
      rw [hanswer] at hsettled
      exact ⟨_, hsettled fun e he => by cases he⟩
    | error e =>
      dsimp only
      split_ifs with hrefusal
      · obtain ⟨renewal, hrenewal⟩ := p.keyring.renew_talk (w.after r)
        rcases hrun : (p.keyring.renew : Act σ τ String).on (w.after r) with ⟨cause | key, u⟩
        · rw [hrun] at hrenewal
          exact ⟨_, .unrenewed hcall hanswer hrefusal hrenewal⟩
        · rw [hrun] at hrenewal
          dsimp only
          cases hagain : (c.bearing u.credential.shown?).request with
          | error f =>
            rw [sendOnce_unsent hagain]
            exact ⟨_, .unrepeated hcall hanswer hrefusal hrenewal hagain⟩
          | ok r' =>
            rw [sendOnce_sent hagain]
            exact ⟨_, .repeated hcall hanswer hrefusal hrenewal hagain⟩
      · rw [hanswer] at hsettled
        refine ⟨_, hsettled fun f hf => ?_⟩
        obtain rfl : e = f := Except.error.inj hf
        exact Bool.eq_false_iff.mpr hrefusal

namespace Talk

variable {p : Provider} {c : Call} {w v : World σ τ} {ms : List Message} {outcome : Except Fault Reply}

theorem journal (h : p.Talk c w ms outcome v) : v.journal = Message.events ms ++ w.journal := by
  cases h with
  | unsent => rfl
  | settled => rfl
  | unrenewed _ _ _ hrenewal => simp [hrenewal.journal, Message.event]
  | unrepeated _ _ _ hrenewal => simp [hrenewal.journal, Message.event]
  | repeated _ _ _ hrenewal => simp [hrenewal.journal, Message.event]

theorem messages (h : p.Talk c w ms outcome v) : ∀ m ∈ ms, (∃ r x, m = .call r x ∧ c.Carries r) ∨
    ∃ token r x, m = .renewal r x ∧ (p.keyring.call token).request = .ok r := by
  have hcarried {token : Option String} {r : Request} (hcall : (c.bearing token).request = .ok r) (x : Exchange) :
      (∃ r' x', Message.call r x = .call r' x' ∧ c.Carries r') ∨
        ∃ token r' x', Message.call r x = .renewal r' x' ∧ (p.keyring.call token).request = .ok r' :=
    Or.inl ⟨r, x, rfl, Call.carries_of_bearing hcall⟩
  cases h with
  | unsent => simp
  | settled hcall =>
    rintro m (_ | ⟨_, ⟨⟩⟩)
    exact hcarried hcall _
  | unrenewed hcall _ _ hrenewal | unrepeated hcall _ _ hrenewal =>
    rintro m (_ | ⟨_, hm⟩)
    · exact hcarried hcall _
    · exact Or.inr (hrenewal.renewals m hm)
  | repeated hcall _ _ hrenewal hagain =>
    rintro m (_ | ⟨_, hm⟩)
    · exact hcarried hcall _
    · rcases List.mem_append.mp hm with hm | hm
      · exact Or.inr (hrenewal.renewals m hm)
      · obtain rfl := List.mem_singleton.mp hm
        exact hcarried hagain _

theorem calls (h : p.Talk c w ms outcome v) {r : Request} {x : Exchange} (hmem : .call r x ∈ ms) : c.Carries r := by
  rcases h.messages _ hmem with ⟨r', x', heq, hcarries⟩ | ⟨_, _, _, heq, -⟩
  · exact (Message.call.inj heq).1 ▸ hcarries
  · cases heq

theorem renewals (h : p.Talk c w ms outcome v) {r : Request} {x : Exchange} (hmem : .renewal r x ∈ ms) :
    ∃ token, (p.keyring.call token).request = .ok r := by
  rcases h.messages _ hmem with ⟨_, _, heq, -⟩ | ⟨token, r', x', heq, hcall⟩
  · cases heq
  · exact ⟨token, (Message.renewal.inj heq).1 ▸ hcall⟩

theorem first (h : p.Talk c w ms outcome v) {r : Request} (hcall : (c.bearing w.credential.shown?).request = .ok r) :
    ∃ x, .call r x ∈ ms := by
  cases h with
  | unsent hunsent =>
    rw [hunsent] at hcall
    cases hcall
  | settled hsent | unrenewed hsent | unrepeated hsent | repeated hsent =>
    obtain rfl := Except.ok.inj (hsent.symm.trans hcall)
    exact ⟨_, List.mem_cons_self⟩

theorem answered {reply : Reply} (h : p.Talk c w ms (.ok reply) v) :
    ∃ r x, .call r x ∈ ms ∧ x.outcome r.url c.operation = .ok reply := by
  generalize houtcome : (.ok reply : Except Fault Reply) = outcome at h
  cases h with
  | unsent => cases houtcome
  | @settled r => exact ⟨r, w.answer r, List.mem_cons_self, rfl⟩
  | unrenewed => cases houtcome
  | unrepeated => cases houtcome
  | @repeated _ r' _ _ _ u => exact ⟨r', u.answer r', by simp, rfl⟩

end Talk

end Provider

end SessionKeeper

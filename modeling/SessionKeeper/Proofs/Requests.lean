import SessionKeeper.Proofs.Scope

/-!
# What the services are sent

For each operation of the registry and of the provider, which requests it sends and whose circuits it
touches.

* `Call.Carries` : a request carries a call, with whatever token.
* `Request.IsQuiet` : a request that reads, or renews the token of a keyring.
* `Exchange.status?`, `Exchange.isAccepted` : the status of an answer, and whether that accepts the request.
* `Request.wanted?` : the name in a request for a new workspace; no other operation sends such a request.
* `Creation.Sends` : what the creation of a workspace sends.
* `Provider.keeps_workspaces`, `Provider.keeps_start`, `Registry.keeps_updateStatusRetrying`,
  `Creation.keeps_createFor`, … : the operations lead along every relation that holds along what they send and the
  circuits they touch; `within_start`, `within_createFor`, … are the scopes that follow.
-/

namespace SessionKeeper

variable {σ τ : Type} [Surroundings σ τ] {s : Scope} {sends : Request → Prop} {R : World σ τ → World σ τ → Prop}

/-! ## Calls -/

/-- The request carries the call, with whatever token. -/
def Call.Carries (c : Call) (r : Request) : Prop :=
  ∃ accept token, { c with accept := accept, token := token }.request = .ok r

/-- The request reads, or it renews the token of the keyring. -/
def Request.IsQuiet (k : Keyring) (r : Request) : Prop := r.method = "GET" ∨ ∃ token, (k.call token).Carries r

namespace Call

omit [Surroundings σ τ] in
theorem request_parts {c : Call} {r : Request} (h : c.request = .ok r) :
    ∃ url, r = ⟨c.method, url, c.accept, c.token, c.body⟩ := by
  unfold request at h
  cases hparsed : Url.parse c.address.toList with
  | error e => simp [hparsed, bind, Except.bind] at h
  | ok url =>
    cases hresolved : url.resolved with
    | error e => simp [hparsed, hresolved, bind, Except.bind] at h
    | ok url' =>
      cases hquery : c.params.elim (.ok url') url'.withQuery with
      | error e => simp [hparsed, hresolved, hquery, bind, Except.bind] at h
      | ok url'' =>
        simp only [hparsed, hresolved, hquery, bind, Except.bind] at h
        split_ifs at h
        exact ⟨url'', (Except.ok.inj h).symm⟩

variable {c : Call} {r : Request}

omit [Surroundings σ τ] in
theorem carries_of_request (h : c.request = .ok r) : c.Carries r := ⟨c.accept, c.token, h⟩

omit [Surroundings σ τ] in
theorem Carries.method (h : c.Carries r) : r.method = c.method := by
  obtain ⟨accept, token, h⟩ := h
  obtain ⟨url, rfl⟩ := request_parts h
  rfl

omit [Surroundings σ τ] in
theorem Carries.body (h : c.Carries r) : r.body = c.body := by
  obtain ⟨accept, token, h⟩ := h
  obtain ⟨url, rfl⟩ := request_parts h
  rfl

theorem send_unmade {e : Fault} (h : c.request = .error e) (w : World σ τ) :
    (c.send : Act σ τ Reply).on w = (.error e, w) := by
  unfold send
  rw [Act.on_bind, Act.on_ofExcept, h, Act.next_error]

theorem send_on (h : c.request = .ok r) (w : World σ τ) :
    ∃ (x : Exchange) (v : World σ τ), v.journal = .sent r x :: w.journal ∧
      c.send.on w = (x.outcome r.url c.operation, v) := by
  refine ⟨((Effect.exchange r).on w : Exchange × World σ τ).1, ((Effect.exchange r).on w).2, rfl, ?_⟩
  unfold send
  rw [Act.on_bind, Act.on_ofExcept, h, Act.next_ok, Act.on_bind, Act.on_ofEffect, Act.next_ok, Act.on_ofExcept]

theorem keeps_send (hR : Course sends R) (h : ∀ r, c.Carries r → sends r) : (c.send : Act σ τ Reply).Keeps R := by
  intro w
  unfold send
  rw [Act.on_bind, Act.on_ofExcept]
  cases hrequest : c.request with
  | error e => exact hR.refl w
  | ok r =>
    rw [Act.next_ok]
    exact Act.keeps_bind hR (Act.keeps_ofEffect (Effect.keeps_exchange hR (h r (carries_of_request hrequest))))
      (fun x => Act.keeps_ofExcept hR _) w

theorem keeps_fetch (hR : Course sends R) (h : ∀ r, c.Carries r → sends r) : (c.fetch : Act σ τ Json).Keeps R :=
  Act.keeps_bind hR (keeps_send hR h) fun _ => Act.keeps_ofExcept hR _

end Call

/-! ## Accepted requests -/

theorem Fault.isRetryable_eq_false {e : Fault} (h : e.isOwn = false) : e.isRetryable = false := by
  cases e with
  | remote => cases h
  | _ => rfl

namespace Exchange

/-- The status that came of a request, where one is known. -/
def status? : Exchange → Option Int
  | .received reply => some reply.status
  | .undecodable _ status | .tooManyRedirects _ status => status
  | .lost _ | .closed => none

/-- The service accepted the request, even if its answer could not be taken. -/
def isAccepted (x : Exchange) : Bool := x.status?.any (· < 400)

/-- An accepted answer is taken, or it fails of something that is no failure of a remote call. -/
theorem outcome_accepted {x : Exchange} (h : x.isAccepted = true) (url : Url) (operation : String) :
    (∃ reply, x = .received reply ∧ x.outcome url operation = .ok reply) ∨
      ∃ e, x.outcome url operation = .error e ∧ e.isOwn = false := by
  cases x with
  | received reply =>
    have haccepted : reply.isAccepted = true := h
    show (∃ reply', _ ∧ reply.outcome url operation = .ok reply') ∨ ∃ e, reply.outcome url operation = .error e ∧ _
    unfold Reply.outcome
    split_ifs
    · exact Or.inr ⟨_, rfl, rfl⟩
    · exact Or.inl ⟨reply, rfl, rfl⟩
  | lost message => cases h
  | undecodable message status => exact Or.inr ⟨_, rfl, rfl⟩
  | tooManyRedirects message status => exact Or.inr ⟨_, rfl, rfl⟩
  | closed => cases h

end Exchange

/-- The status of the answer in an event. -/
def Event.status? : Event τ → Option Int
  | .sent _ x => x.status?
  | _ => none

/-! ## Requests for new workspaces -/

/-- The name of the workspace that a request asks for, if it posts the fields of a new workspace. -/
def Request.wanted? (r : Request) : Option String :=
  match r.body with
  | some (.object [("name", .text name), ("template_id", .text _), ("rich_parameter_values", .list [])]) =>
    if r.method = "POST" then some name else none
  | _ => none

/-- The call for a new workspace, on one of the routes for it. -/
def Provider.createCall (p : Provider) (path name templateId : String) : Call :=
  p.callTo "POST" path createOperation (some (createBody name templateId))

def Registry.recordCall {τ : Type} (r : Registry τ) (request : RecordRequest) : Call where
  method := "POST"
  address := r.root ++ "/workspaces"
  operation := Registry.createOperation
  body := some request.body

section

variable {p : Provider} {r : Request}

omit [Surroundings σ τ]

theorem Provider.wanted_create {path name templateId : String} (h : (p.createCall path name templateId).Carries r) :
    r.wanted? = some name := by
  have hbody : r.body = some (createBody name templateId) := h.body
  have hmethod : r.method = "POST" := h.method
  unfold Request.wanted?
  rw [hbody, hmethod]
  rfl

theorem Request.IsQuiet.wanted {k : Keyring} (h : r.IsQuiet k) : r.wanted? = none := by
  unfold wanted?
  rcases h with hget | ⟨token, hrenewal⟩
  · rw [hget]
    split
    · rfl
    · rfl
  · rw [hrenewal.body]
    rfl

theorem Provider.wanted_transition {id word : String} (h : (p.transitionCall id word).Carries r) :
    r.wanted? = none := by
  unfold Request.wanted?
  rw [h.body]
  rfl

theorem Registry.wanted_record {g : Registry τ} {request : RecordRequest} (h : (g.recordCall request).Carries r) :
    r.wanted? = none := by
  unfold Request.wanted?
  rw [h.body]
  rfl

theorem Registry.wanted_update {g : Registry τ} {id : String} {status : SessionStatus}
    (h : (g.updateCall id status).Carries r) : r.wanted? = none := by
  unfold Request.wanted?
  rw [h.body]
  rfl

end

/-! ## The token -/

theorem Keyring.keeps_renew (hR : Course sends R) (k : Keyring) (h : ∀ r, r.IsQuiet k → sends r) :
    (k.renew : Act σ τ String).Keeps R := by
  unfold Keyring.renew
  refine Act.keeps_bind hR (Act.keeps_get hR) fun w => ?_
  cases w.credential.current? with
  | none => exact Act.keeps_throw hR _
  | some token =>
    have hcall : ((k.call token).fetch : Act σ τ Json).Keeps R :=
      Call.keeps_fetch hR fun r hr => h r (Or.inr ⟨token, hr⟩)
    dsimp only
    refine Act.keeps_bind hR (Act.keeps_attempt hcall) fun outcome => ?_
    cases outcome with
    | error e => exact Act.keeps_throw hR _
    | ok data =>
      refine Act.keeps_bind hR (Act.keeps_pure hR data) fun data => ?_
      refine Act.keeps_bind hR (Act.keeps_ofExcept hR _) fun key => ?_
      refine Act.keeps_bind hR (fun w => hR.silent rfl rfl) fun _ => ?_
      exact Act.keeps_pure hR _

/-! ## The provider -/

namespace Provider

variable (p : Provider) (hR : Course sends R)

include hR

theorem keeps_sendOnce {c : Call} (h : ∀ r, c.Carries r → sends r) : (sendOnce c : Act σ τ Reply).Keeps R := by
  intro w
  unfold sendOnce authorized
  rw [Act.on_bind, Act.on_bind, Act.on_get, Act.next_ok, Act.on_pure, Act.next_ok]
  have hsend : ∀ r, Call.Carries { c with accept := Keyring.acceptedType, token := w.credential.shown? } r →
      sends r := fun r ⟨accept, token, hr⟩ => h r ⟨accept, token, hr⟩
  exact Call.keeps_send hR hsend w

variable (hquiet : ∀ r, r.IsQuiet p.keyring → sends r)

include hquiet

theorem keeps_request {c : Call} (h : ∀ r, c.Carries r → sends r) : (p.request c : Act σ τ Reply).Keeps R := by
  unfold request
  refine Act.keeps_bind hR (Act.keeps_attempt (keeps_sendOnce hR h)) fun outcome => ?_
  cases outcome with
  | ok r => exact Act.keeps_pure hR r
  | error e =>
    dsimp only
    split
    · refine Act.keeps_bind hR (Act.keeps_attempt (p.keyring.keeps_renew hR hquiet)) fun renewed => ?_
      cases renewed with
      | ok key => exact keeps_sendOnce hR h
      | error cause =>
        dsimp only
        split
        · exact Act.keeps_throw hR _
        · exact Act.keeps_throw hR _
    · exact Act.keeps_throw hR _

theorem keeps_fetch {c : Call} (h : ∀ r, c.Carries r → sends r) : (p.fetch c : Act σ τ Json).Keeps R :=
  Act.keeps_bind hR (p.keeps_request hR hquiet h) fun _ => Act.keeps_ofExcept hR _

theorem keeps_page (cursor : Option Json) : (p.page cursor : Act σ τ Page).Keeps R :=
  Act.keeps_bind hR (p.keeps_fetch hR hquiet fun r hr => hquiet r (Or.inl hr.method)) fun _ =>
    Act.keeps_ofExcept hR _

theorem keeps_itemsFrom (collected : List Json) (last : Page) (seen : List Json) (left : Nat) :
    (p.itemsFrom collected last seen left : Act σ τ (List Json)).Keeps R := by
  induction left generalizing collected last seen with
  | zero =>
    unfold itemsFrom
    split_ifs
    · exact Act.keeps_bind hR (Act.keeps_ofExcept hR _) fun _ => Act.keeps_pure hR _
    · exact Act.keeps_pure hR _
  | succ left ih =>
    unfold itemsFrom
    refine Act.keeps_bind hR (Act.keeps_ofExcept hR _) fun cursor => ?_
    cases cursor with
    | none => exact Act.keeps_pure hR _
    | some cursor =>
      refine Act.keeps_bind hR (p.keeps_page hR hquiet (some cursor)) fun next => ?_
      split_ifs
      · exact Act.keeps_pure hR _
      · exact ih _ _ _

theorem keeps_workspaces : (p.workspaces : Act σ τ (List Workspace)).Keeps R :=
  Act.keeps_bind hR (p.keeps_page hR hquiet none) fun first =>
    Act.keeps_bind hR (p.keeps_itemsFrom hR hquiet _ first _ _) fun _ => Act.keeps_ofExcept hR _

theorem keeps_workspacesOf (id : String) : (p.workspacesOf id : Act σ τ (List Workspace)).Keeps R :=
  Act.keeps_bind hR (p.keeps_workspaces hR hquiet) fun _ => Act.keeps_pure hR _

theorem keeps_find (name : String) : (p.find name : Act σ τ (Option Workspace)).Keeps R :=
  Act.keeps_bind hR (p.keeps_workspaces hR hquiet) fun _ => Act.keeps_pure hR _

theorem keeps_templates : (p.templates : Act σ τ (List Template)).Keeps R := by
  unfold templates
  refine Act.keeps_bind hR (Act.keeps_attempt ?_) fun outcome => ?_
  · exact Act.keeps_bind hR (p.keeps_fetch hR hquiet fun r hr => hquiet r (Or.inl hr.method)) fun _ =>
      Act.keeps_ofExcept hR _
  · cases outcome with
    | ok ts => exact Act.keeps_pure hR ts
    | error e =>
      dsimp only
      split_ifs
      · exact Act.keeps_pure hR _
      · exact Act.keeps_throw hR e

theorem keeps_start (id : String) (h : ∀ r, (p.transitionCall id "start").Carries r → sends r) :
    (p.start id : Act σ τ Unit).Keeps R :=
  Act.keeps_bind hR (p.keeps_request hR hquiet h) fun _ => Act.keeps_pure hR _

theorem keeps_create (name templateId : String)
    (h : ∀ path r, (p.createCall path name templateId).Carries r → sends r) :
    (p.create name templateId : Act σ τ Workspace).Keeps R := by
  unfold create
  refine Act.keeps_bind hR (Act.keeps_attempt (p.keeps_request hR hquiet (h _))) fun outcome => ?_
  have hread (reply : Reply) : (do
      let data ← Act.ofExcept (reply.value createOperation)
      Act.ofExcept (readWorkspace createOperation data) : Act σ τ Workspace).Keeps R :=
    Act.keeps_bind hR (Act.keeps_ofExcept hR _) fun _ => Act.keeps_ofExcept hR _
  cases outcome with
  | ok reply => exact Act.keeps_bind hR (Act.keeps_pure hR reply) hread
  | error e =>
    dsimp only
    split_ifs
    · exact Act.keeps_bind hR (p.keeps_request hR hquiet (h _)) hread
    · exact Act.keeps_throw hR e

theorem keeps_createOrGet (name templateId : String)
    (h : ∀ path r, (p.createCall path name templateId).Carries r → sends r) :
    (p.createOrGet name templateId : Act σ τ Workspace).Keeps R := by
  unfold createOrGet
  refine Act.keeps_bind hR (Act.keeps_attempt (p.keeps_create hR hquiet name templateId h)) fun outcome => ?_
  cases outcome with
  | ok w => exact Act.keeps_pure hR w
  | error e =>
    dsimp only
    split
    · refine Act.keeps_bind hR (p.keeps_find hR hquiet name) fun found => ?_
      cases found with
      | some w => exact Act.keeps_pure hR w
      | none => exact Act.keeps_throw hR _
    · exact Act.keeps_throw hR _

omit hR hquiet

theorem within_page (hquiet : ∀ r, r.IsQuiet p.keyring → s.sends r) (cursor : Option Json) :
    (p.page cursor : Act σ τ Page).Within s := p.keeps_page (Advance.course s) hquiet cursor

theorem within_start (hquiet : ∀ r, r.IsQuiet p.keyring → s.sends r) (id : String)
    (h : ∀ r, (p.transitionCall id "start").Carries r → s.sends r) : (p.start id : Act σ τ Unit).Within s :=
  p.keeps_start (Advance.course s) hquiet id h

end Provider

/-! ## The registry -/

namespace Registry

variable [Timeline τ] (r : Registry τ)

section

variable (hR : Course sends R)

include hR

omit [Timeline τ] in
theorem keeps_sessions (status : SessionStatus) (hlist : ∀ q, (r.listCall status).Carries q → sends q)
    (hfallback : ∀ q, (r.listFallbackCall status).Carries q → sends q) :
    (r.sessions status : Act σ τ (List Session)).Keeps R := by
  unfold sessions
  refine Act.keeps_bind hR (Act.keeps_attempt (Call.keeps_send hR hlist)) fun outcome => ?_
  have hread (reply : Reply) : (do
      let data ← Act.ofExcept (reply.value (listOperation status))
      Act.ofExcept (readItems Session.read (listOperation status) data) : Act σ τ (List Session)).Keeps R :=
    Act.keeps_bind hR (Act.keeps_ofExcept hR _) fun _ => Act.keeps_ofExcept hR _
  cases outcome with
  | ok reply => exact Act.keeps_bind hR (Act.keeps_pure hR reply) hread
  | error e =>
    dsimp only
    split_ifs
    · exact Act.keeps_bind hR (Call.keeps_send hR hfallback) hread
    · exact Act.keeps_throw hR e

omit [Timeline τ] in
theorem keeps_updateStatus (id : String) (status : SessionStatus)
    (h : ∀ q, (r.updateCall id status).Carries q → sends q) :
    (r.updateStatus id status : Act σ τ (Option Session)).Keeps R :=
  Act.keeps_bind hR (Call.keeps_send hR h) fun _ => Act.keeps_ofExcept hR _

theorem keeps_updateStatusRetrying (id : String) (status : SessionStatus) (hkey : r.guard.Minds (updateKey id) R)
    (h : ∀ q, (r.updateCall id status).Carries q → sends q) :
    (r.updateStatusRetrying id status : Act σ τ (Option Session)).Keeps R :=
  Guard.keeps_retry hR hkey (r.keeps_updateStatus hR id status h) updateAttempts

theorem keeps_updateNamedRetrying (id : String) (status : Json) (hkey : r.guard.Minds (updateKey id) R)
    (h : ∀ status q, (r.updateCall id status).Carries q → sends q) :
    (r.updateNamedRetrying id status : Act σ τ (Option Session)).Keeps R :=
  Guard.keeps_retry hR hkey (Act.keeps_bind hR (Act.keeps_ofExcept hR _) fun status =>
    r.keeps_updateStatus hR id status (h status)) updateAttempts

omit [Timeline τ] in
theorem keeps_records (sessionId : String) (h : ∀ q : Request, q.method = "GET" → sends q) :
    (r.records sessionId : Act σ τ (List WorkspaceRecord)).Keeps R :=
  Act.keeps_bind hR (Call.keeps_fetch hR fun q hq => h q hq.method) fun _ => Act.keeps_ofExcept hR _

theorem keeps_createRecordRetrying (request : RecordRequest) (hkey : r.guard.Minds (createKey request.sessionId) R)
    (h : ∀ q, (r.recordCall request).Carries q → sends q) :
    (r.createRecordRetrying request : Act σ τ WorkspaceRecord).Keeps R :=
  Guard.keeps_retry hR hkey
    (Act.keeps_bind hR (Call.keeps_fetch hR h) fun _ => Act.keeps_ofExcept hR _) createAttempts

theorem keeps_startRecordRetrying (id : String) (hkey : r.guard.Minds (startKey id) R)
    (h : ∀ q : Request, q.method = "POST" → sends q) : (r.startRecordRetrying id : Act σ τ Unit).Keeps R :=
  Guard.keeps_retry hR hkey
    (Act.keeps_bind hR (Call.keeps_send hR fun q hq => h q hq.method) fun _ => Act.keeps_pure hR _) startAttempts

end

omit [Timeline τ] in
theorem within_sessions (status : SessionStatus) (hlist : ∀ q, (r.listCall status).Carries q → s.sends q)
    (hfallback : ∀ q, (r.listFallbackCall status).Carries q → s.sends q) :
    (r.sessions status : Act σ τ (List Session)).Within s :=
  r.keeps_sessions (Advance.course s) status hlist hfallback

theorem within_updateStatusRetrying (id : String) (status : SessionStatus) (hkey : s.touches (updateKey id))
    (h : ∀ q, (r.updateCall id status).Carries q → s.sends q) :
    (r.updateStatusRetrying id status : Act σ τ (Option Session)).Within s :=
  r.keeps_updateStatusRetrying (Advance.course s) id status (r.guard.minds_advance hkey) h

theorem within_createRecordRetrying (request : RecordRequest) (hkey : s.touches (createKey request.sessionId))
    (h : ∀ q, (r.recordCall request).Carries q → s.sends q) :
    (r.createRecordRetrying request : Act σ τ WorkspaceRecord).Within s :=
  r.keeps_createRecordRetrying (Advance.course s) request (r.guard.minds_advance hkey) h

end Registry

/-! ## The creation of workspaces -/

namespace Creation

variable [Timeline τ] (c : Creation τ)

omit [Surroundings σ τ] [Timeline τ] in
theorem keeps_tolerating (hR : Course sends R) {a : Act σ τ Unit} (h : a.Keeps R) : (tolerating a).Keeps R := by
  unfold tolerating
  refine Act.keeps_bind hR (Act.keeps_attempt h) fun outcome => ?_
  cases outcome with
  | ok _ => exact Act.keeps_pure hR _
  | error e =>
    dsimp only
    split_ifs
    · exact Act.keeps_pure hR _
    · exact Act.keeps_throw hR e

omit [Surroundings σ τ] [Timeline τ] in
theorem within_tolerating {a : Act σ τ Unit} (h : a.Within s) : (tolerating a).Within s :=
  keeps_tolerating (Advance.course s) h

/-- What the creation of a workspace for a session sends: it reads, asks for a workspace with a name that is
made for the session, starts a workspace and writes a record. -/
inductive Sends (c : Creation τ) (x : Session) (r : Request) : Prop
  | quiet (h : r.IsQuiet c.provider.keyring)
  | asks (time : Int) (path templateId : String)
    (h : (c.provider.createCall path (WorkspaceName.generate x.id x.name time) templateId).Carries r)
  | starts (id : String) (h : (c.provider.transitionCall id "start").Carries r)
  | records (request : RecordRequest) (h : (c.registry.recordCall request).Carries r)

omit [Surroundings σ τ] [Timeline τ] in
theorem Sends.quiet_or_post {c : Creation τ} {x : Session} {r : Request} (h : c.Sends x r) :
    r.IsQuiet c.provider.keyring ∨ r.method = "POST" := by
  cases h with
  | quiet h => exact Or.inl h
  | asks time path templateId h => exact Or.inr h.method
  | starts id h => exact Or.inr h.method
  | records request h => exact Or.inr h.method

omit [Surroundings σ τ] [Timeline τ] in
theorem Sends.name {c : Creation τ} {x : Session} {r : Request} {name : String} (h : c.Sends x r)
    (hwanted : r.wanted? = some name) : ∃ time, name = WorkspaceName.generate x.id x.name time := by
  have hnot (hnone : r.wanted? = none) : False := by
    rw [hnone] at hwanted
    cases hwanted
  cases h with
  | quiet h => exact (hnot h.wanted).elim
  | asks time path templateId h =>
    rw [Provider.wanted_create h] at hwanted
    exact ⟨time, (Option.some.inj hwanted).symm⟩
  | starts id h => exact (hnot (Provider.wanted_transition h)).elim
  | records request h => exact (hnot (Registry.wanted_record h)).elim

variable {x : Session}

section

variable (hR : Course sends R) (hsends : ∀ r, c.Sends x r → sends r)
  (hkey : c.guard.Minds (circuitKey x.id) R) (hrecord : c.registry.guard.Minds (Registry.createKey x.id) R)

include hR hsends hkey hrecord

theorem keeps_createFrom (t : Template) : (c.createFrom x t : Act σ τ Workspace).Keeps R := by
  have hquiet : ∀ r, r.IsQuiet c.provider.keyring → sends r := fun r hr => hsends r (.quiet hr)
  unfold createFrom
  refine Act.keeps_bind hR (Act.keeps_ofEffect (Effect.keeps_milliseconds hR)) fun time => ?_
  have hcreate : (c.provider.createOrGet (WorkspaceName.generate x.id x.name time) t.id : Act σ τ Workspace).Keeps R :=
    c.provider.keeps_createOrGet hR hquiet _ _ fun path r hr => hsends r (.asks time path t.id hr)
  refine Act.keeps_bind hR (Guard.keeps_retry hR hkey hcreate attempts) fun w => ?_
  have hstart : (c.provider.start w.id : Act σ τ Unit).Keeps R :=
    c.provider.keeps_start hR hquiet w.id fun r hr => hsends r (.starts w.id hr)
  refine Act.keeps_bind hR (keeps_tolerating hR hstart) fun _ => ?_
  have hmirror : (c.mirror x w t.id : Act σ τ Unit).Keeps R :=
    Act.keeps_bind hR (c.registry.keeps_createRecordRetrying hR _ hrecord fun r hr => hsends r (.records _ hr))
      fun _ => Act.keeps_pure hR _
  split_ifs
  · exact Act.keeps_bind hR (keeps_tolerating hR hmirror) fun _ => Act.keeps_pure hR w
  · exact Act.keeps_pure hR w

theorem keeps_createFor : (c.createFor x : Act σ τ (Option Workspace)).Keeps R := by
  unfold createFor
  refine Act.keeps_bind hR (c.provider.keeps_templates hR fun r hr => hsends r (.quiet hr)) fun ts => ?_
  cases Template.choose ts x.tags c.houseWord with
  | none => exact Act.keeps_pure hR _
  | some t =>
    exact Act.keeps_bind hR (c.keeps_createFrom hR hsends hkey hrecord t) fun _ => Act.keeps_pure hR _

end

theorem within_createFor (hsends : ∀ r, c.Sends x r → s.sends r) (hkey : s.touches (circuitKey x.id))
    (hrecord : s.touches (Registry.createKey x.id)) : (c.createFor x : Act σ τ (Option Workspace)).Within s :=
  c.keeps_createFor (Advance.course s) hsends (c.guard.minds_advance hkey) (c.registry.guard.minds_advance hrecord)

end Creation

/-! ## The workspaces of a session -/

theorem Keeper.keeps_owned [Timeline τ] (hR : Course sends R) (k : Keeper τ) (x : Session)
    (hquiet : ∀ r, r.IsQuiet k.provider.keyring → sends r) : (k.owned x : Act σ τ (List Workspace)).Keeps R := by
  unfold Keeper.owned
  refine Act.keeps_bind hR (k.provider.keeps_workspacesOf hR hquiet x.id) fun ws => ?_
  split_ifs
  · exact Act.keeps_pure hR ws
  · exact Act.keeps_bind hR (k.registry.keeps_records hR x.id fun q hq => hquiet q (Or.inl hq)) fun _ =>
      Act.keeps_pure hR _

theorem Keeper.within_owned [Timeline τ] (k : Keeper τ) (x : Session)
    (hquiet : ∀ r, r.IsQuiet k.provider.keyring → s.sends r) : (k.owned x : Act σ τ (List Workspace)).Within s :=
  k.keeps_owned (Advance.course s) x hquiet

end SessionKeeper

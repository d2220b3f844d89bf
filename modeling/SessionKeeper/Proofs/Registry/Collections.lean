import SessionKeeper.Proofs.Answers
import SessionKeeper.Proofs.Checked
import SessionKeeper.Proofs.Pass.Shortcut
import SessionKeeper.Proofs.Registry.Update

/-!
# Collections are read whole

The registry lists sessions, records and templates, bare or wrapped in an object. Each list is read whole or not at
all, and what else can come of an operation is said by the last answer to it.

* `Wraps`, `ReadsWhole`, `readsWhole` : the ways to send a list, and what comes of each.
* `Exchange.Blames`, `Exchange.blames_of_value` : a failure is blamed on an exchange, and may pass exactly if that may.
* `Exchange.Concludes`, `Act.Ends`, `Act.Consults` : what follows from the last answer, and an action that ends so.
* `Registry.collections_whole` : the four operations of the registry that read an answer.
-/

namespace SessionKeeper

variable {σ τ α : Type}

/-! ## Lists and their wrappings -/

/-- A value that holds a list of items: the list itself, or an object with no field but it. -/
inductive Wraps (items : List Json) : Json → Prop
  | bare : Wraps items (.list items)
  | items : Wraps items (.object [("items", .list items)])
  | content : Wraps items (.object [("content", .list items)])

theorem Wraps.collectionOf_eq {items : List Json} {data : Json} (h : Wraps items data) (operation : String) :
    collectionOf data operation = .ok items := by
  cases h with
  | bare => rfl
  | items => cases items <;> rfl
  | content => cases items <;> rfl

/-- However a list is wrapped, it is read whole or not at all: one value for each item in order, or the fault of the
first item that is malformed. -/
def ReadsWhole (read : Json → Checked α) : Prop :=
  ∀ operation items data, Wraps items data →
    readItems read operation data = readItems read operation (.list items) ∧
    ((∃ xs, readItems read operation data = .ok xs ∧ List.Forall₂ (fun j x => read j = .ok x) items xs) ∨
      ∃ before j after issues, items = before ++ j :: after ∧ (∀ i ∈ before, ∃ x, read i = .ok x) ∧
        read j = .bad issues ∧
        readItems read operation data = .error (malformed operation "malformed items" issues))

theorem readItems_of_collection {read : Json → Checked α} {operation : String} {data : Json} {items : List Json}
    (h : collectionOf data operation = .ok items) : readItems read operation data =
      items.mapM fun j => (read j).toExcept (malformed operation "malformed items") := by
  unfold readItems
  rw [h]
  rfl

theorem readsWhole (read : Json → Checked α) : ReadsWhole read := by
  intro operation items data hdata
  rw [readItems_of_collection (hdata.collectionOf_eq operation),
    readItems_of_collection (Wraps.bare.collectionOf_eq operation)]
  refine ⟨rfl, ?_⟩
  cases hread : items.mapM fun j => (read j).toExcept (malformed operation "malformed items") with
  | ok xs => exact Or.inl ⟨xs, rfl, (mapM_eq_ok_iff.mp hread).imp fun _ _ => Checked.toExcept_eq_ok.mp⟩
  | error e =>
    obtain ⟨before, j, after, hitems, hbefore, hj⟩ := mapM_error hread
    obtain ⟨issues, hbad, rfl⟩ := Checked.toExcept_eq_error.mp hj
    exact Or.inr ⟨before, j, after, issues, hitems,
      fun i hi => (hbefore i hi).imp fun _ => Checked.toExcept_eq_ok.mp, hbad, rfl⟩

/-- The fault of an answer whose content cannot be used. -/
def Fault.IsUnusable (operation : String) (e : Fault) : Prop :=
  ∃ m status issues, e = .remote .format m operation status issues none

theorem readItems_only (read : Json → Checked α) (operation : String) (data : Json) :
    Fault.Only (·.IsUnusable operation) (readItems read operation data) := by
  unfold readItems
  refine .bind ?_ fun items _ => .mapM fun j _ e he => ?_
  · unfold collectionOf
    dsimp only
    split
    · exact .ok _
    · exact .ok _
    · exact .error ⟨_, _, _, rfl⟩
  · obtain ⟨issues, -, rfl⟩ := Checked.toExcept_eq_error.mp he
    exact ⟨_, _, _, rfl⟩

theorem readBody_only (read : Json → Checked α) (operation : String) (data : Json) :
    Fault.Only (·.IsUnusable operation) (readBody read operation data) := by
  intro e he
  obtain ⟨issues, -, rfl⟩ := Checked.toExcept_eq_error.mp he
  exact ⟨_, _, _, rfl⟩

/-! ## What follows from an answer -/

/-- The fault is that of the operation, as a remote call that failed, and it may pass exactly if the exchange may. -/
def Exchange.Blames (x : Exchange) (operation : String) (e : Fault) : Prop :=
  ∃ kind m status issues, e = .remote kind m operation status issues none ∧ (e.isRetryable = true ↔ x.MayPass)

namespace Exchange

variable {x : Exchange} {url : Url} {operation : String} {e : Fault}

theorem not_mayPass_of_ok {reply : Reply} (h : x.outcome url operation = .ok reply) : ¬ x.MayPass := by
  obtain ⟨rfl, haccepted⟩ := outcome_ok h
  have hstatus : reply.status < 400 := by simpa [Reply.isAccepted] using haccepted
  show ¬ 500 ≤ reply.status
  omega

theorem blames_of_outcome (h : x.outcome url operation = .error e) (hx : ¬ x.IsStray url) :
    x.Blames operation e := by
  rcases outcome_error h with ⟨status, m, hends, rfl⟩ | ⟨m, rfl⟩ | hstray
  · refine ⟨_, _, _, _, rfl, mayPass_of_outcome h, fun hpass => ?_⟩
    obtain ⟨reply, rfl, rfl, -⟩ := hends.received
    have hstatus : 500 ≤ reply.status := hpass
    show (RemoteKind.ofStatus reply.status).isRetryable = true
    rw [RemoteKind.ofStatus, if_pos hstatus]
    rfl
  · exact ⟨_, _, _, _, rfl, mayPass_of_outcome h, fun _ => rfl⟩
  · exact absurd (stray_iff.mpr ⟨e, h, hstray⟩) hx

theorem blames_of_value (h : x.value url operation = .error e) (hx : ¬ x.IsUnread url) : x.Blames operation e := by
  have hunread : e.isOwn ≠ false := fun hstray => hx (unread_iff.mpr ⟨e, h, hstray⟩)
  rcases value_error_cases h with houtcome | ⟨reply, houtcome, hreply⟩
  · exact blames_of_outcome houtcome fun hstray => hx (Or.inl hstray)
  · rcases Reply.value_error hreply with ⟨m, rfl⟩ | ⟨rfl, -⟩
    · exact ⟨_, _, _, _, rfl, nofun, fun hpass => absurd hpass (not_mayPass_of_ok houtcome)⟩
    · exact absurd rfl hunread

/-- What the last answer says about the end of an operation: the result is what is read from it, and a failure is
blamed on it unless it cannot be taken or read, which is a failure of another kind. -/
structure Concludes (x : Exchange) (url : Url) (operation : String) (reads : Json → Except Fault α)
    (result : Except Fault α) : Prop where
  read : result = do
    let data ← x.value url operation
    reads data
  blamed : ¬ x.IsUnread url → ∀ e, result = .error e → x.Blames operation e
  strayed : x.IsUnread url → ∃ e, result = .error e ∧ e.isOwn = false

theorem Concludes.of_reads {reads : Json → Except Fault α}
    (hreads : ∀ data, Fault.Only (·.IsUnusable operation) (reads data)) :
    x.Concludes url operation reads (x.value url operation >>= reads) where
  read := rfl
  blamed hx e he := by
    cases hvalue : x.value url operation with
    | error f =>
      rw [hvalue] at he
      obtain rfl : f = e := Except.error.inj he
      exact blames_of_value hvalue hx
    | ok data =>
      rw [hvalue] at he
      obtain ⟨m, status, issues, rfl⟩ := hreads data e he
      obtain ⟨reply, houtcome, -⟩ := value_ok hvalue
      exact ⟨_, _, _, _, rfl, nofun, fun hpass => absurd hpass (not_mayPass_of_ok houtcome)⟩
  strayed hx := by
    obtain ⟨e, he, hstray⟩ := unread_iff.mp hx
    exact ⟨e, by rw [he]; rfl, hstray⟩

end Exchange

/-- How an operation ends that sends calls and reads the last answer: a call could not be written, or the newest of the
news is the answer to one of the calls, which concludes the operation. -/
inductive Act.Ends (calls : List Call) (operation : String) (reads : Json → Except Fault α) (news : List (Event τ))
    (result : Except Fault α) : Prop
  | unwritten {c : Call} {e : Fault} (hc : c ∈ calls) (hcall : c.request = .error e) (hresult : result = .error e)
    (hstray : e.isOwn = false)
  | answered {c : Call} {r : Request} {x : Exchange} {rest : List (Event τ)} (hc : c ∈ calls)
    (hcall : c.request = .ok r) (hnews : news = .sent r x :: rest) (hx : x.Concludes r.url operation reads result)

theorem Act.Ends.of_unwritten {calls : List Call} {operation : String} {reads : Json → Except Fault α}
    {news : List (Event τ)} {c : Call} {e : Fault} (hc : c ∈ calls) (hcall : c.request = .error e) :
    Act.Ends calls operation reads news (.error e) :=
  .unwritten hc hcall rfl (Fault.isOwn_of_isUnwritable (c.request_only e hcall))

/-- Wherever it is done, the action ends so. -/
def Act.Consults [Surroundings σ τ] (a : Act σ τ α) (calls : List Call) (operation : String)
    (reads : Json → Except Fault α) : Prop :=
  ∀ w, ∃ news, (a.on w).2.journal = news ++ w.journal ∧ Act.Ends calls operation reads news (a.on w).1

namespace Registry

variable [Surroundings σ τ]

theorem consults_of_fetch {a : Act σ τ α} {c : Call} {operation : String} {reads : Json → Except Fault α}
    (hoperation : c.operation = operation) (hreads : ∀ data, Fault.Only (·.IsUnusable operation) (reads data))
    (ha : ∀ w, a.on w = ((c.fetch.on w).1 >>= reads, (c.fetch.on w).2)) : a.Consults [c] operation reads := by
  intro w
  rw [ha]
  cases hcall : c.request with
  | error e =>
    have hfetch : (c.fetch : Act σ τ Json).on w = (.error e, w) := by
      unfold Call.fetch
      rw [Act.on_bind, Call.send_unmade hcall, Act.next_error]
    rw [hfetch]
    exact ⟨[], rfl, .of_unwritten List.mem_cons_self hcall⟩
  | ok r =>
    rw [Call.fetch_sent hcall, hoperation]
    exact ⟨[.sent r (w.answer r)], rfl, .answered List.mem_cons_self hcall rfl (.of_reads hreads)⟩

def templatesCall (r : Registry τ) : Call where
  method := "GET"
  address := r.root ++ "/workspaces/templates"
  operation := templatesOperation

/-- The default template, or else the first. -/
def preferred (ts : List RecordTemplate) : Option String := ((ts.find? (·.isDefault)).or ts.head?).map (·.id)

theorem records_consults (r : Registry τ) (id : String) :
    (r.records id : Act σ τ (List WorkspaceRecord)).Consults [r.recordsCall id] recordsOperation
      (readItems WorkspaceRecord.read recordsOperation) :=
  consults_of_fetch rfl (readItems_only _ _) fun w => Act.on_bind_ofExcept _ _ w

theorem createRecord_consults (r : Registry τ) (request : RecordRequest) :
    (r.createRecord request : Act σ τ WorkspaceRecord).Consults [r.recordCall request] createOperation
      (readBody WorkspaceRecord.read createOperation) :=
  consults_of_fetch rfl (readBody_only _ _) fun w => Act.on_bind_ofExcept _ _ w

theorem defaultTemplate_consults (r : Registry τ) :
    (r.defaultTemplate : Act σ τ (Option String)).Consults [r.templatesCall] templatesOperation
      fun data => preferred <$> readItems RecordTemplate.read templatesOperation data := by
  refine consults_of_fetch rfl (fun data e he => ?_) fun w => ?_
  · cases hread : readItems RecordTemplate.read templatesOperation data with
    | error f =>
      rw [hread] at he
      obtain rfl : f = e := Except.error.inj he
      exact readItems_only _ _ _ f hread
    | ok ts =>
      rw [hread] at he
      cases he
  · have hread : (r.defaultTemplate : Act σ τ (Option String)) = r.templatesCall.fetch >>= fun data =>
        Act.ofExcept (preferred <$> readItems RecordTemplate.read templatesOperation data) := by
      unfold defaultTemplate
      refine bind_congr fun data => ?_
      cases readItems RecordTemplate.read templatesOperation data <;> rfl
    rw [hread, Act.on_bind_ofExcept]

def sessionsIn (status : SessionStatus) (outcome : Except Fault Reply) : Except Fault (List Session) := do
  let reply ← outcome
  let data ← reply.value (listOperation status)
  readItems Session.read (listOperation status) data

/-- Sessions are listed as one equation: only a missing route is followed by another call. -/
theorem sessions_on (r : Registry τ) (status : SessionStatus) (w : World σ τ) :
    (r.sessions status).on w =
      match ((r.listCall status).send : Act σ τ Reply).on w with
      | (.error e, v) =>
        if isNotFound e then (sessionsIn status (((r.listFallbackCall status).send.on v).1),
          ((r.listFallbackCall status).send.on v).2)
        else (.error e, v)
      | (.ok reply, v) => (sessionsIn status (.ok reply), v) := by
  have hread (a : Act σ τ Reply) (v : World σ τ) : (do
      let reply ← a
      let data ← Act.ofExcept (reply.value (listOperation status))
      Act.ofExcept (readItems Session.read (listOperation status) data)).on v =
        (sessionsIn status (a.on v).1, (a.on v).2) := by
    simp only [Act.ofExcept_bind]
    exact Act.on_bind_ofExcept a _ v
  unfold sessions
  rw [Act.on_bind, Act.on_attempt, Act.next_ok]
  rcases ((r.listCall status).send : Act σ τ Reply).on w with ⟨e | reply, v⟩
  · dsimp only
    split_ifs with hmissing
    · exact hread _ v
    · rfl
  · exact hread (pure reply) v

theorem sessionsIn_outcome (status : SessionStatus) (x : Exchange) (url : Url) :
    sessionsIn status (x.outcome url (listOperation status)) =
      x.value url (listOperation status) >>= readItems Session.read (listOperation status) := by
  unfold sessionsIn Exchange.value
  rw [bind_assoc]

theorem isNotFound_of_isUnwritable {e : Fault} (h : e.isUnwritable = true) : isNotFound e = false := by
  cases e with
  | remote => cases h
  | _ => rfl

theorem sessions_consults (r : Registry τ) (status : SessionStatus) :
    (r.sessions status : Act σ τ (List Session)).Consults [r.listCall status, r.listFallbackCall status]
      (listOperation status) (readItems Session.read (listOperation status)) := by
  have hreads (data : Json) : Fault.Only (·.IsUnusable (listOperation status))
      (readItems Session.read (listOperation status) data) := readItems_only _ _ _
  have hanswered {c : Call} {q : Request} {x : Exchange} {rest : List (Event τ)}
      (hc : c ∈ [r.listCall status, r.listFallbackCall status]) (hcall : c.request = .ok q) :
      Act.Ends [r.listCall status, r.listFallbackCall status] (listOperation status)
        (readItems Session.read (listOperation status)) (.sent q x :: rest)
        (sessionsIn status (x.outcome q.url (listOperation status))) := by
    rw [sessionsIn_outcome]
    exact .answered hc hcall rfl (.of_reads hreads)
  have hfirst : r.listCall status ∈ [r.listCall status, r.listFallbackCall status] := List.mem_cons_self
  have hsecond : r.listFallbackCall status ∈ [r.listCall status, r.listFallbackCall status] := by simp
  intro w
  rw [sessions_on]
  cases hcall : (r.listCall status).request with
  | error e =>
    rw [Call.send_unmade hcall]
    dsimp only
    rw [isNotFound_of_isUnwritable (Call.request_only _ e hcall)]
    exact ⟨[], rfl, .of_unwritten hfirst hcall⟩
  | ok q =>
    -- unless the first route is missing its answer is the last, whatever it is
    have hone : Act.Ends _ _ _ [Event.sent q (w.answer q)] _ := hanswered hfirst hcall
    rw [Call.send_sent hcall, show (r.listCall status).operation = listOperation status from rfl]
    cases houtcome : (w.answer q).outcome q.url (listOperation status) with
    | ok reply =>
      rw [houtcome] at hone
      exact ⟨_, rfl, hone⟩
    | error e =>
      rw [houtcome] at hone
      dsimp only
      split_ifs with hmissing
      · cases hother : (r.listFallbackCall status).request with
        | error f =>
          rw [Call.send_unmade hother]
          exact ⟨[.sent q (w.answer q)], rfl, .of_unwritten hsecond hother⟩
        | ok q' =>
          rw [Call.send_sent hother, show (r.listFallbackCall status).operation = listOperation status from rfl]
          exact ⟨[.sent q' ((w.after q).answer q'), .sent q (w.answer q)], rfl, hanswered hsecond hother⟩
      · exact ⟨_, rfl, hone⟩

/-- **What comes of reading the registry.** However a list is wrapped, sessions, records and templates are read from it
whole or not at all: one for each item in order, or the fault of the first item that is malformed. And whatever the
services answer, each of the four operations that read ends with the answer to its last call: the result is what is read
from that, and a failure is a remote one that may pass exactly if there was no answer or one with a status from 500 on.
The failures of another kind are those of a call that cannot be written and of an answer that cannot be taken, refuses
with a body that cannot be shown, or is accepted with a body that is nested too deeply. -/
theorem collections_whole (r : Registry τ) :
    (ReadsWhole Session.read ∧ ReadsWhole WorkspaceRecord.read ∧ ReadsWhole RecordTemplate.read) ∧
    (∀ status, (r.sessions status : Act σ τ (List Session)).Consults [r.listCall status, r.listFallbackCall status]
      (listOperation status) (readItems Session.read (listOperation status))) ∧
    (∀ id, (r.records id : Act σ τ (List WorkspaceRecord)).Consults [r.recordsCall id] recordsOperation
      (readItems WorkspaceRecord.read recordsOperation)) ∧
    (∀ request, (r.createRecord request : Act σ τ WorkspaceRecord).Consults [r.recordCall request] createOperation
      (readBody WorkspaceRecord.read createOperation)) ∧
    (r.defaultTemplate : Act σ τ (Option String)).Consults [r.templatesCall] templatesOperation
      fun data => preferred <$> readItems RecordTemplate.read templatesOperation data :=
  ⟨⟨readsWhole _, readsWhole _, readsWhole _⟩, r.sessions_consults, r.records_consults, r.createRecord_consults,
    r.defaultTemplate_consults⟩

end Registry

/-! ## A run -/

/-- The registry fails with a body that cannot be shown. -/
def Rehearsal.muttering : Rehearsal := { plain with routes := [("GET /api/v1/workspaces/templates", [.unshown 500])] }

/-- Not every failure to read the registry is that of a remote call. -/
theorem Registry.failure_unshown :
    ¬ ∀ e, (Keeper.confirming.registry.defaultTemplate.on Rehearsal.muttering.world).1 = .error e →
      ∃ kind m operation status issues cause, e = .remote kind m operation status issues cause := by
  intro h
  have hstray : Keeper.confirming.registry.defaultTemplate.Raises Rehearsal.muttering.world fun e _ =>
      e.isOwn = false := by
    decide +kernel
  obtain ⟨e, he, hown⟩ := hstray.exists_on
  obtain ⟨_, _, _, _, _, _, rfl⟩ := h e he
  cases hown

end SessionKeeper

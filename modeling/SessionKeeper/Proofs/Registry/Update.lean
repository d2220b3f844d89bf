import SessionKeeper.Proofs.Answers
import SessionKeeper.Proofs.Circuit.Sending
import SessionKeeper.Proofs.Pass.Updates

/-!
# An accepted update is final

* `Registry.updateRequest` : the request that puts the stage that a caller names.
* `Exchange.MayPass` : what another attempt may follow.
* `Registry.Put` : what holds of each update that was put.
* `Registry.accepted_update_final` : a retried update puts at most three times, and never after an accepted update.
* `Registry.accepted_update_deep` : an accepted update with an answer that is nested too deeply.
-/

namespace SessionKeeper

variable {σ τ : Type}

/-! ## What comes of an update -/

/-- The service failed, or there was no answer. -/
def Exchange.MayPass : Exchange → Prop
  | .received reply => 500 ≤ reply.status
  | .lost _ => True
  | _ => False

theorem Exchange.not_mayPass_of_accepted {x : Exchange} (h : x.isAccepted = true) : ¬ x.MayPass := by
  cases x with
  | received reply =>
    have hstatus : reply.status < 400 := by simpa [isAccepted, status?] using h
    show ¬ 500 ≤ reply.status
    omega
  | lost message => cases h
  | _ => exact id

theorem Exchange.mayPass_of_outcome {x : Exchange} {url : Url} {operation : String} {e : Fault}
    (h : x.outcome url operation = .error e) (he : e.isRetryable = true) : x.MayPass := by
  cases x with
  | received reply =>
    have hreply : reply.outcome url operation = .error e := h
    unfold Reply.outcome at hreply
    split_ifs at hreply with hurl haccepted
    · obtain rfl := Except.error.inj hreply
      cases he
    · obtain rfl := Except.error.inj hreply
      unfold Reply.failure at he
      cases hshown : reply.failureMessage operation with
      | error f =>
        have hstray := Reply.failureMessage_only reply operation f hshown
        rw [hshown] at he
        simp [Fault.isRetryable_eq_false hstray] at he
      | ok m =>
        have hkind : (RemoteKind.ofStatus reply.status).isRetryable = true := by
          rw [hshown] at he
          exact he
        show 500 ≤ reply.status
        by_contra hlow
        unfold RemoteKind.ofStatus at hkind
        rw [if_neg hlow] at hkind
        split_ifs at hkind <;> cases hkind
  | lost m => trivial
  | undecodable m status =>
    obtain rfl := Except.error.inj h
    cases he
  | tooManyRedirects m status =>
    obtain rfl := Except.error.inj h
    cases he
  | closed =>
    obtain rfl := Except.error.inj h
    cases he

theorem SessionStatus.ofText_text (stage : SessionStatus) : ofText? stage.text = some stage := by
  cases stage <;> rfl

theorem SessionStatus.isRetryable_ofValue {status : Json} {e : Fault} (h : ofValue status = .error e) :
    e.isRetryable = false := by
  unfold ofValue at h
  split at h
  · rename_i s
    cases hstage : ofText? s with
    | none =>
      rw [hstage] at h
      obtain rfl := Except.error.inj h
      rfl
    | some stage =>
      rw [hstage] at h
      cases h
  · obtain rfl := Except.error.inj h
    rfl

/-! ## One attempt -/

namespace Registry

/-- The request that puts the stage that a caller names. -/
def updateRequest (r : Registry τ) (id : String) (status : Json) : Except Fault Request := do
  let stage ← SessionStatus.ofValue status
  (r.updateCall id stage).request

/-- What the caller of an update is told. -/
def updateVerdict (q : Request) (x : Exchange) : Except Fault (Option Session) := do
  let reply ← x.outcome q.url updateOperation
  readUpdated reply

theorem mayPass_of_updateVerdict {q : Request} {x : Exchange} {e : Fault} (h : updateVerdict q x = .error e)
    (he : e.isRetryable = true) : x.MayPass := by
  unfold updateVerdict at h
  cases houtcome : x.outcome q.url updateOperation with
  | error f =>
    rw [houtcome] at h
    obtain rfl : f = e := Except.error.inj h
    exact Exchange.mayPass_of_outcome houtcome he
  | ok reply =>
    rw [houtcome] at h
    obtain ⟨rfl, -⟩ := readUpdated_error h
    cases he

/-- Whatever an accepted answer says, the caller is told a session or none, if the answer can be taken and read. -/
theorem updateVerdict_accepted {q : Request} {x : Exchange} (h : x.isAccepted = true) (hread : ¬ x.IsUnread q.url) :
    ∃ session, updateVerdict q x = .ok session := by
  unfold updateVerdict
  rcases Exchange.outcome_accepted h q.url updateOperation with ⟨reply, rfl, houtcome⟩ | ⟨e, houtcome, hstray⟩
  · rw [houtcome]
    cases hreads : readUpdated reply with
    | ok session => exact ⟨session, hreads⟩
    | error e =>
      have hstatus : reply.status < 400 := by simpa [Exchange.isAccepted, Exchange.status?] using h
      exact absurd (Or.inr ⟨reply, rfl, hstatus, (readUpdated_error hreads).2⟩) hread
  · exact absurd (Or.inl (Exchange.stray_iff.mpr ⟨e, houtcome, hstray⟩)) hread

theorem updateVerdict_unread {q : Request} {x : Exchange} (h : x.IsUnread q.url) :
    ∃ e, updateVerdict q x = .error e ∧ e.isOwn = false := by
  obtain ⟨e, hvalue, hstray⟩ := Exchange.unread_iff.mp h
  refine ⟨e, ?_, hstray⟩
  unfold updateVerdict
  rcases Exchange.value_error_cases hvalue with houtcome | ⟨reply, houtcome, hreply⟩
  · rw [houtcome]
    rfl
  · rw [houtcome]
    rcases Reply.value_error hreply with ⟨m, rfl⟩ | ⟨rfl, hdeep⟩
    · cases hstray
    · exact readUpdated_deep hdeep

variable [Surroundings σ τ] (r : Registry τ) (id : String)

theorem updateNamed_sends {status : Json} {q : Request} (h : r.updateRequest id status = .ok q) :
    (r.updateNamed id status : Act σ τ (Option Session)).Sends q (updateVerdict q) := by
  intro w
  unfold updateRequest at h
  unfold updateNamed
  rw [Act.on_bind, Act.on_ofExcept]
  cases hstage : SessionStatus.ofValue status with
  | error e =>
    rw [hstage] at h
    cases h
  | ok stage =>
    rw [hstage] at h
    rw [Act.next_ok, updateStatus, Act.on_bind, Call.send_sent h]
    unfold updateVerdict
    show Act.next _ ((w.answer q).outcome q.url updateOperation, w.after q) = _
    cases (w.answer q).outcome q.url updateOperation with
    | error e => rfl
    | ok reply => rfl

theorem updateNamed_unmade {status : Json} {e : Fault} (h : r.updateRequest id status = .error e) :
    e.isRetryable = false ∧ ∀ w : World σ τ, (r.updateNamed id status).on w = (.error e, w) := by
  unfold updateRequest at h
  cases hstage : SessionStatus.ofValue status with
  | error f =>
    rw [hstage] at h
    obtain rfl : f = e := Except.error.inj h
    refine ⟨SessionStatus.isRetryable_ofValue hstage, fun w => ?_⟩
    rw [updateNamed, Act.on_bind, Act.on_ofExcept, hstage, Act.next_error]
  | ok stage =>
    rw [hstage] at h
    have hcall : (r.updateCall id stage).request = .error e := h
    constructor
    · exact Fault.isRetryable_eq_false (Fault.isOwn_of_isUnwritable (Call.request_only _ e hcall))
    · intro w
      rw [updateNamed, Act.on_bind, Act.on_ofExcept, hstage, Act.next_ok, updateStatus, Act.on_bind,
        Call.send_unmade hcall, Act.next_error]

/-! ## All attempts -/

variable [Timeline τ]

theorem updateNamedRetrying_text (stage : SessionStatus) :
    (r.updateNamedRetrying id (.text stage.text) : Act σ τ (Option Session)) = r.updateStatusRetrying id stage := by
  have hnamed : SessionStatus.ofValue (.text stage.text) = .ok stage := by
    show (SessionStatus.ofText? stage.text).elim _ Except.ok = _
    rw [SessionStatus.ofText_text]
    rfl
  unfold updateNamedRetrying updateStatusRetrying updateNamed
  rw [hnamed]
  rfl

/-- What holds of an update that was put in a run: it is the one request for the stage, the circuit had let it through,
more is put only if it may pass, and nothing is put after it was accepted. Then the caller is told so and the circuit
has no entry, unless the answer cannot be taken or read: that counts as a failure, and the caller is told what it is. -/
structure Put (status : Json) (run : Except Fault (Option Session) × World σ τ) (before : List (Event τ))
    (q : Request) (x : Exchange) (after : List (Event τ)) : Prop where
  request : r.updateRequest id status = .ok q
  asked : before.getLast? = some (.asked (updateKey id) false)
  again : (∃ e ∈ after, e.sending?.isSome = true) → x.MayPass
  last : x.isAccepted = true → ∀ e ∈ after, e.sending? = none
  final : x.isAccepted = true → ¬ x.IsUnread q.url → after = [.succeeded (updateKey id)] ∧
    (∃ session, run.1 = .ok session) ∧ run.2.circuits.find (updateKey id) = none
  unread : x.IsUnread q.url → (∃ t, after = [.failed (updateKey id) t]) ∧ ∃ e, run.1 = .error e ∧ e.isOwn = false

/-- **An accepted update is final.** A retried update puts at most three times, always with the one request for the
stage that is named, and each time the circuit had let it through. Another update is put only after an answer with a
status from 500 on or after none. Once an update is accepted no other one is put, the caller is told a session or none,
and the circuit has no entry; only an answer that cannot be taken or is nested too deeply is a failure, and ends the run
as such. Unless the circuit rejects it at once, an update that can be written is put. -/
theorem accepted_update_final (status : Json) (w : World σ τ) :
    ∃ news : List (Event τ),
      ((r.updateNamedRetrying id status).on w).2.journal = news.reverse ++ w.journal ∧
      (news.filterMap Event.sending?).length ≤ 3 ∧
      (∀ before q x after, news = before ++ .sent q x :: after →
        r.Put id status ((r.updateNamedRetrying id status).on w) before q x after) ∧
      (∀ q, r.updateRequest id status = .ok q →
        news = [.asked (updateKey id) true] ∨ ∃ x rest, news = .asked (updateKey id) false :: .sent q x :: rest) := by
  unfold updateNamedRetrying
  cases hrequest : r.updateRequest id status with
  | error e =>
    obtain ⟨he, hcall⟩ := r.updateNamed_unmade (σ := σ) id hrequest
    obtain ⟨news, hjournal, hquiet⟩ :=
      r.guard.retry_unmade (updateKey id) hcall he (show 1 ≤ updateAttempts by decide) w
    have hnone : news.filterMap Event.sending? = [] := List.filterMap_eq_nil_iff.mpr hquiet
    refine ⟨news, hjournal, by simp [hnone], fun before q x after hnews => ?_, nofun⟩
    have hsent : (Event.sent q x : Event τ).sending? = none := hquiet _ (by simp [hnews])
    cases hsent
  | ok q =>
    have hcall := r.updateNamed_sends (σ := σ) id hrequest
    obtain ⟨news, hjournal, hsendings, hforgotten⟩ :=
      r.guard.retry_sendings (updateKey id) hcall (show 1 ≤ updateAttempts by decide) w
    refine ⟨news, hjournal, hsendings.few, fun before q' x after hnews => ?_, fun q' hq' => ?_⟩
    · have hat := hsendings.at_of_split hnews
      obtain rfl := hat.same
      have hagain (hlater : ∃ e ∈ after, e.sending?.isSome = true) : x.MayPass := by
        obtain ⟨e, hverdict, he⟩ := hat.again hlater
        exact mayPass_of_updateVerdict hverdict he
      refine ⟨hrequest, hat.asked, hagain, fun haccepted e he => ?_, fun haccepted hread => ?_, fun hunread => ?_⟩
      · by_contra hsent
        exact Exchange.not_mayPass_of_accepted haccepted (hagain ⟨e, he, Option.isSome_iff_ne_none.mpr hsent⟩)
      · obtain ⟨session, hverdict⟩ := updateVerdict_accepted haccepted hread
        obtain ⟨hafter, hresult⟩ := hat.last session hverdict
        exact ⟨hafter, ⟨session, hresult⟩, hforgotten session hresult⟩
      · obtain ⟨e, hverdict, hstray⟩ := updateVerdict_unread hunread
        obtain ⟨hafter, hresult⟩ := hat.gone e hverdict (Fault.isRetryable_eq_false hstray)
        exact ⟨hafter, e, hresult, hstray⟩
    · obtain rfl : q = q' := Except.ok.inj hq'
      exact hsendings.first

end Registry

/-! ## A run -/

/-- The registry accepts every update, and answers with lists inside one another. -/
def Rehearsal.bracketing : Rehearsal :=
  { plain with routes := [("*", [.answered ⟨200, List.replicate 1000 91 ++ List.replicate 1000 93, none⟩])] }

theorem Rehearsal.bracketing_fails :
    (Keeper.confirming.registry.updateStatusRetrying "s" .inactive).Raises bracketing.world fun _ v =>
      (∃ event ∈ v.journal, event.status? = some 200) ∧ (v.circuits.find (Registry.updateKey "s")).isSome = true := by
  decide +kernel

/-- An update that was accepted with such an answer is a failure to the caller, and one of the circuit. -/
theorem Registry.accepted_update_deep :
    let run := (Keeper.confirming.registry.updateStatusRetrying "s" .inactive).on Rehearsal.bracketing.world
    ∃ q x, .sent q x ∈ run.2.journal ∧ x.isAccepted = true ∧ (¬ ∃ session, run.1 = .ok session) ∧
      run.2.circuits.find (updateKey "s") ≠ none := by
  dsimp only
  obtain ⟨e, he, ⟨event, hsent, hstatus⟩, hentry⟩ := Rehearsal.bracketing_fails.exists_on
  cases event with
  | sent q x =>
    have haccepted : x.isAccepted = true := by
      have hknown : x.status? = some 200 := hstatus
      rw [Exchange.isAccepted, hknown]
      rfl
    refine ⟨q, x, hsent, haccepted, ?_, Option.isSome_iff_ne_none.mp hentry⟩
    rintro ⟨session, hsession⟩
    cases he.symm.trans hsession
  | _ => cases hstatus

end SessionKeeper

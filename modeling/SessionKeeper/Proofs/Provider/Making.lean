import SessionKeeper.Proofs.Creation.Shown
import SessionKeeper.Proofs.Provider.Failures

/-!
# Making a workspace

One attempt to make a workspace posts it on the first route, and on the other route if there is no such route. If its
name is taken, it is looked up in the list.

* `Provider.Ended` : some messages end with a call that was answered with a status from 400 on.
* `Provider.Posted`, `Provider.create_posted` : the messages of the two routes, and what comes of them.
* `Provider.Making`, `Provider.createOrGet_making` : the same with the lookup.
-/

namespace SessionKeeper

variable {σ τ : Type}

namespace Provider

/-- The last of the messages is a call that ended with the status. -/
def Ended (operation : String) (ms : List Message) (status : Int) (m : String) : Prop :=
  ∃ r x, ms.getLast? = some (.call r x) ∧ x.EndsIn r.url operation status m

theorem ended_append {operation : String} {ms ms' : List Message} {status : Int} {m : String} (h : ms' ≠ []) :
    Ended operation (ms ++ ms') status m ↔ Ended operation ms' status m := by
  unfold Ended
  rw [List.getLast?_append_of_ne_nil ms h]

theorem Ended.ne_nil {operation : String} {ms : List Message} {status : Int} {m : String}
    (h : Ended operation ms status m) : ms ≠ [] := by
  rintro rfl
  obtain ⟨r, x, hlast, -⟩ := h
  cases hlast

/-- Whether a fault is that the name is taken. -/
def isConflict : Fault → Bool
  | .remote .conflict .. => true
  | _ => false

/-! ## Faults and statuses -/

theorem isNoRoute_call (status : Int) (m operation : String) :
    isNoRoute (.call (.ofStatus status) m operation (some status)) = true ↔ status = 404 ∨ status = 405 := by
  unfold RemoteKind.ofStatus
  split_ifs <;> simp [isNoRoute, Fault.call, RemoteKind.isClient] <;> omega

theorem isConflict_call (status : Int) (m operation : String) :
    isConflict (.call (.ofStatus status) m operation (some status)) = true ↔ status = 409 := by
  unfold RemoteKind.ofStatus
  split_ifs <;> simp [isConflict, Fault.call] <;> omega

theorem isRefusal_call (status : Int) (m operation : String) :
    (Fault.call (.ofStatus status) m operation (some status)).isRefusal = true ↔ status = 401 := by
  unfold RemoteKind.ofStatus
  split_ifs <;> simp [Fault.isRefusal, Fault.call] <;> omega

theorem plain_of_stray {e : Fault} (h : e.isOwn = false) : isNoRoute e = false ∧ isConflict e = false := by
  cases e with
  | remote => cases h
  | _ => exact ⟨rfl, rfl⟩

theorem plain_of_blame {m operation : String} {cause : Fault}
    (h : cause.isOwn = false ∨ ∃ why f, cause = .renewal why f) :
    isNoRoute (blame (.call .unauthorized m operation (some 401)) cause) = false ∧
      isConflict (blame (.call .unauthorized m operation (some 401)) cause) = false := by
  rcases h with hstray | ⟨why, f, rfl⟩
  · rw [blame_stray hstray]
    exact plain_of_stray hstray
  · exact ⟨rfl, rfl⟩

variable [Surroundings σ τ] {p : Provider} {c : Call} {w v : World σ τ} {ms : List Message}

namespace Talk

theorem of_ended {outcome : Except Fault Reply} {status : Int} {m : String} (h : p.Talk c w ms outcome v)
    (hended : Ended c.operation ms status m) (hother : status ≠ 401) :
    outcome = .error (.call (.ofStatus status) m c.operation (some status)) := by
  obtain ⟨r, x, hlast, hends⟩ := hended
  cases h with
  | unsent => cases hlast
  | settled =>
    obtain ⟨rfl, rfl⟩ := Message.call.inj (Option.some.inj hlast)
    exact hends.outcome
  | unrenewed _ hanswer hrefusal hrenewal =>
    cases hrenewal with
    | missing | unsent =>
      obtain ⟨rfl, rfl⟩ := Message.call.inj (Option.some.inj hlast)
      obtain rfl := Except.error.inj (hends.outcome.symm.trans hanswer)
      exact absurd ((isRefusal_call _ _ _).mp hrefusal) hother
    | failed => cases hlast
  | unrepeated _ _ _ hrenewal =>
    cases hrenewal with
    | issued => cases hlast
  | repeated =>
    rw [← List.cons_append, List.getLast?_concat] at hlast
    obtain ⟨rfl, rfl⟩ := Message.call.inj (Option.some.inj hlast)
    exact hends.outcome

/-- What a request fails of: the status that its last call ended with, the refusal of its token, or something that is
neither. -/
theorem error_cases {e : Fault} (h : p.Talk c w ms (.error e) v) :
    (∃ status m, Ended c.operation ms status m ∧ e = .call (.ofStatus status) m c.operation (some status)) ∨
      (isNoRoute e = false ∧ isConflict e = false) := by
  generalize houtcome : (.error e : Except Fault Reply) = outcome at h
  have hends {r : Request} {x : Exchange} (hanswer : x.outcome r.url c.operation = .error e) :
      (∃ status m, x.EndsIn r.url c.operation status m ∧ e = .call (.ofStatus status) m c.operation (some status)) ∨
        (isNoRoute e = false ∧ isConflict e = false) := by
    rcases Exchange.outcome_error hanswer with hstatus | ⟨m, rfl⟩ | hstray
    · exact Or.inl hstatus
    · exact Or.inr ⟨rfl, rfl⟩
    · exact Or.inr (plain_of_stray hstray)
  cases h with
  | unsent hcall =>
    obtain rfl := Except.error.inj houtcome
    exact Or.inr (plain_of_stray (Fault.isOwn_of_isUnwritable (Call.request_only _ _ hcall)))
  | settled =>
    exact (hends houtcome.symm).imp_left fun ⟨status, m, hended, he⟩ => ⟨status, m, ⟨_, _, rfl, hended⟩, he⟩
  | unrenewed _ hanswer hrefusal hrenewal =>
    obtain rfl := Except.error.inj houtcome
    obtain ⟨m, -, rfl⟩ := Exchange.endsIn_of_isRefusal hanswer hrefusal
    exact Or.inr (plain_of_blame (hrenewal.cause.symm.imp_left And.left))
  | unrepeated _ _ _ _ hagain =>
    obtain rfl := Except.error.inj houtcome
    exact Or.inr (plain_of_stray (Fault.isOwn_of_isUnwritable (Call.request_only _ _ hagain)))
  | repeated =>
    refine (hends houtcome.symm).imp_left fun ⟨status, m, hended, he⟩ => ⟨status, m, ⟨_, _, ?_, hended⟩, he⟩
    rw [← List.cons_append, List.getLast?_concat]

theorem sent_iff {outcome : Except Fault Reply} (h : p.Talk c w ms outcome v) :
    ms ≠ [] ↔ ∃ r, (c.bearing w.credential.shown?).request = .ok r := by
  cases h with
  | unsent hcall => simp [hcall]
  | settled hcall => simp [hcall]
  | unrenewed hcall => simp [hcall]
  | unrepeated hcall => simp [hcall]
  | repeated hcall => simp [hcall]

theorem plain_of_ended {outcome : Except Fault Reply} {status : Int} {m : String} (h : p.Talk c w ms outcome v)
    (hended : Ended c.operation ms status m) : v.credential.shown?.all isPlainText = true := by
  obtain ⟨r, x, hlast, -⟩ := hended
  cases h with
  | unsent => cases hlast
  | settled hcall => exact Call.request_plain hcall
  | unrenewed hcall _ _ hrenewal =>
    cases hrenewal with
    | missing => exact Call.request_plain hcall
    | unsent => exact Call.request_plain hcall
    | failed => cases hlast
  | unrepeated _ _ _ hrenewal =>
    cases hrenewal with
    | issued => cases hlast
  | repeated _ _ _ _ hagain => exact Call.request_plain hagain

end Talk

/-! ## Posting on two routes -/

/-- What the two routes for new workspaces are sent, and what comes of it. -/
structure Posted (p : Provider) (name templateId : String) (w : World σ τ) (first other : List Message)
    (outcome : Except Fault Workspace) (v : World σ τ) : Prop where
  journal : v.journal = Message.events (first ++ other) ++ w.journal
  firstCalls : ∀ r x, .call r x ∈ first → (p.createCall createPath name templateId).Carries r
  otherCalls : ∀ r x, .call r x ∈ other → (p.createCall createFallbackPath name templateId).Carries r
  renewals : ∀ r x, .renewal r x ∈ first ++ other → ∃ token, (p.keyring.call token).request = .ok r
  /-- The other route is sent something if and only if there is no such route as the first one. -/
  fallback : other ≠ [] ↔ (∃ m, Ended createOperation first 404 m ∨ Ended createOperation first 405 m) ∧
    ∃ r, (p.createCall createFallbackPath name templateId).Carries r
  taken : ∀ m, Ended createOperation (first ++ other) 409 m →
    outcome = .error (.call .conflict m createOperation (some 409))
  conflict : ∀ e, outcome = .error e → isConflict e = true → ∃ m, Ended createOperation (first ++ other) 409 m

theorem create_eq (p : Provider) (name templateId : String) (w : World σ τ) :
    (p.create name templateId).on w =
      match (p.request (p.createCall createPath name templateId)).on w with
      | (.ok reply, v) => (created reply, v)
      | (.error e, v) =>
        if isNoRoute e then
          match (p.request (p.createCall createFallbackPath name templateId)).on v with
          | (.ok reply, u) => (created reply, u)
          | (.error f, u) => (.error f, u)
        else (.error e, v) := by
  have hread (reply : Reply) (v : World σ τ) : (do
      let data ← Act.ofExcept (reply.value createOperation)
      Act.ofExcept (readWorkspace createOperation data) : Act σ τ Workspace).on v = (created reply, v) := by
    unfold created
    rw [Act.on_bind, Act.on_ofExcept]
    cases reply.value createOperation <;> rfl
  have hcall (path : String) : p.callTo "POST" path createOperation (some (createBody name templateId)) =
      p.createCall path name templateId := rfl
  unfold create
  simp only [hcall]
  rw [Act.on_bind, Act.on_attempt, Act.next_ok]
  rcases (p.request (p.createCall createPath name templateId) : Act σ τ Reply).on w with ⟨e | reply, v⟩
  · dsimp only
    split_ifs with hroute
    · rw [Act.on_bind]
      rcases (p.request (p.createCall createFallbackPath name templateId) : Act σ τ Reply).on v with ⟨f | reply, u⟩
      · rfl
      · rw [Act.next_ok, hread]
    · rfl
  · dsimp only
    rw [Act.on_bind, Act.on_pure, Act.next_ok, hread]

theorem created_plain {reply : Reply} : Fault.Only (isConflict · = false) (created reply) := by
  refine .bind (fun e he => ?_) fun data _ => ?_
  · rcases Reply.value_error he with ⟨m, rfl⟩ | ⟨rfl, -⟩ <;> rfl
  · refine (readWorkspace_only createOperation data).imp fun e he => ?_
    rcases he with ⟨m, issues, rfl⟩ | hmisfit
    · rfl
    · exact (plain_of_stray (Workspace.isOwn_misfit hmisfit)).2

theorem Talk.conflict {outcome : Except Fault Reply} {made : Except Fault Workspace} {e : Fault}
    (h : p.Talk c w ms outcome v) (hok : ∀ reply, outcome = .ok reply → made = created reply)
    (herror : ∀ f, outcome = .error f → made = .error f) (hmade : made = .error e) (hconflict : isConflict e = true) :
    ∃ m, Ended c.operation ms 409 m := by
  cases outcome with
  | ok reply =>
    rw [created_plain e ((hok reply rfl).symm.trans hmade)] at hconflict
    cases hconflict
  | error f =>
    obtain rfl := Except.error.inj ((herror f rfl).symm.trans hmade)
    rcases h.error_cases with ⟨status, m, hended, rfl⟩ | ⟨-, hplain⟩
    · obtain rfl := (isConflict_call _ _ _).mp hconflict
      exact ⟨m, hended⟩
    · rw [hplain] at hconflict
      cases hconflict

theorem Posted.of_first {name templateId : String} {first : List Message} {outcome : Except Fault Reply}
    {made : Except Fault Workspace} (h : p.Talk (p.createCall createPath name templateId) w first outcome v)
    (hok : ∀ reply, outcome = .ok reply → made = created reply)
    (herror : ∀ e, outcome = .error e → isNoRoute e = false ∧ made = .error e) :
    p.Posted name templateId w first [] made v where
  journal := by rw [List.append_nil]; exact h.journal
  firstCalls r x hmem := h.calls hmem
  otherCalls := by simp
  renewals r x hmem := h.renewals (by simpa using hmem)
  fallback := by
    refine iff_of_false (by simp) ?_
    rintro ⟨⟨m, hended | hended⟩, -⟩
    · cases (herror _ (h.of_ended hended (by decide))).1
    · cases (herror _ (h.of_ended hended (by decide))).1
  taken m hended := by
    rw [List.append_nil] at hended
    exact (herror _ (h.of_ended hended (by decide))).2
  conflict e hmade hconflict := by
    rw [List.append_nil]
    exact h.conflict hok (fun f hf => (herror f hf).2) hmade hconflict

theorem Posted.of_both {name templateId : String} {first other : List Message} {e : Fault} {u : World σ τ}
    {outcome : Except Fault Reply} {made : Except Fault Workspace}
    (h : p.Talk (p.createCall createPath name templateId) w first (.error e) u) (hroute : isNoRoute e = true)
    (hother : p.Talk (p.createCall createFallbackPath name templateId) u other outcome v)
    (hok : ∀ reply, outcome = .ok reply → made = created reply) (herror : ∀ e, outcome = .error e → made = .error e) :
    p.Posted name templateId w first other made v := by
  obtain ⟨status, m, hended, he⟩ | ⟨hplain, -⟩ := h.error_cases
  swap
  · rw [hroute] at hplain
    cases hplain
  have hstatus : status = 404 ∨ status = 405 := (isNoRoute_call _ _ _).mp (he ▸ hroute)
  have hended' : ∃ m, Ended createOperation first 404 m ∨ Ended createOperation first 405 m :=
    ⟨m, by rcases hstatus with rfl | rfl; exacts [Or.inl hended, Or.inr hended]⟩
  have hfirst (m' : String) (htaken : Ended createOperation first 409 m') : False := by
    have hsame := Except.error.inj (h.of_ended htaken (by decide))
    rw [hsame] at hroute
    cases hroute
  have hsent {m' : String} (htaken : Ended createOperation (first ++ other) 409 m') :
      Ended createOperation other 409 m' := by
    by_cases hnone : other = []
    · rw [hnone, List.append_nil] at htaken
      exact (hfirst m' htaken).elim
    · exact (ended_append hnone).mp htaken
  exact {
    journal := by rw [hother.journal, h.journal, Message.events_append, List.append_assoc]
    firstCalls := fun r x hmem => h.calls hmem
    otherCalls := fun r x hmem => hother.calls hmem
    renewals := fun r x hmem => (List.mem_append.mp hmem).elim h.renewals hother.renewals
    fallback := by
      rw [hother.sent_iff]
      refine ⟨fun ⟨r, hr⟩ => ⟨hended', r, Call.carries_of_bearing hr⟩, fun ⟨_, r, hcarries⟩ => ?_⟩
      exact hcarries.bearing (h.plain_of_ended hended)
    taken := fun m' htaken => herror _ (hother.of_ended (hsent htaken) (by decide))
    conflict := fun f hmade hconflict => by
      obtain ⟨m', htaken⟩ := hother.conflict hok herror hmade hconflict
      exact ⟨m', (ended_append htaken.ne_nil).mpr htaken⟩ }

theorem create_posted (p : Provider) (name templateId : String) (w : World σ τ) :
    ∃ first other, p.Posted name templateId w first other ((p.create name templateId).on w).1
      ((p.create name templateId).on w).2 := by
  rw [create_eq]
  obtain ⟨first, hfirst⟩ := p.request_talk (p.createCall createPath name templateId) w
  rcases hrun : (p.request (p.createCall createPath name templateId) : Act σ τ Reply).on w with ⟨e | reply, v⟩
  · rw [hrun] at hfirst
    dsimp only
    split_ifs with hroute
    · obtain ⟨other, hother⟩ := p.request_talk (p.createCall createFallbackPath name templateId) v
      rcases hagain : (p.request (p.createCall createFallbackPath name templateId) : Act σ τ Reply).on v with
        ⟨f | reply, u⟩
      · rw [hagain] at hother
        exact ⟨first, other, .of_both hfirst hroute hother (by simp) (by simp)⟩
      · rw [hagain] at hother
        exact ⟨first, other, .of_both hfirst hroute hother (by simp) (by simp)⟩
    · exact ⟨first, [], .of_first hfirst (by simp) (by simpa using hroute)⟩
  · rw [hrun] at hfirst
    exact ⟨first, [], .of_first hfirst (by simp) (by simp)⟩

/-! ## Looking up a taken name -/

/-- One attempt to make a workspace: what the two routes are sent until a world `u`, and the lookup after that. -/
structure Making (p : Provider) (name templateId : String) (w : World σ τ) (first other : List Message)
    (u : World σ τ) (outcome : Except Fault Workspace) (v : World σ τ) : Prop where
  posted : ∃ made, p.Posted name templateId w first other made u ∧
    ((∀ m, ¬ Ended createOperation (first ++ other) 409 m) → v = u ∧ outcome = made)
  /-- After the posts there are only messages that read or renew the token. -/
  quiet : Advance ⟨Request.IsQuiet p.keyring, fun _ => False⟩ u v
  /-- A taken name is followed by the list, and what is found there, if anything, is the outcome. -/
  taken : ∀ m, Ended createOperation (first ++ other) 409 m → v = ((p.workspaces).on u).2 ∧
    (∀ e, ((p.workspaces).on u).1 = .error e → outcome = .error e) ∧
    ∀ ws, ((p.workspaces).on u).1 = .ok ws →
      outcome = ((ws.find? (·.name == name)).or (ws.find? fun x => Text.lower x.name == Text.lower name)).elim
        (.error (.call .conflict m createOperation (some 409))) .ok

theorem createOrGet_eq (p : Provider) (name templateId : String) (w : World σ τ) :
    (p.createOrGet name templateId).on w =
      match (p.create name templateId).on w with
      | (.ok x, u) => (.ok x, u)
      | (.error e, u) =>
        if isConflict e then
          match (p.workspaces).on u with
          | (.ok ws, v) => ((named? ws name).elim (.error e) .ok, v)
          | (.error f, v) => (.error f, v)
        else (.error e, u) := by
  unfold createOrGet
  rw [Act.on_bind, Act.on_attempt, Act.next_ok]
  rcases (p.create name templateId : Act σ τ Workspace).on w with ⟨e | x, u⟩
  · by_cases hconflict : isConflict e = true
    · obtain ⟨m, op, status, issues, cause, rfl⟩ : ∃ m op status issues cause,
          e = .remote .conflict m op status issues cause := by
        unfold isConflict at hconflict
        split at hconflict
        · exact ⟨_, _, _, _, _, rfl⟩
        · cases hconflict
      dsimp only
      rw [if_pos hconflict]
      unfold find
      rw [Act.on_bind, Act.on_bind]
      rcases (p.workspaces : Act σ τ (List Workspace)).on u with ⟨f | ws, v⟩
      · rfl
      · rw [Act.next_ok, Act.on_pure, Act.next_ok]
        dsimp only
        cases named? ws name <;> rfl
    · dsimp only
      rw [if_neg hconflict]
      unfold isConflict at hconflict
      split
      · exact absurd rfl hconflict
      · rfl
  · rfl

theorem createOrGet_making (p : Provider) (name templateId : String) (w : World σ τ) :
    ∃ first other u, p.Making name templateId w first other u ((p.createOrGet name templateId).on w).1
      ((p.createOrGet name templateId).on w).2 := by
  obtain ⟨first, other, hposted⟩ := p.create_posted name templateId w
  rw [createOrGet_eq]
  rcases hrun : (p.create name templateId : Act σ τ Workspace).on w with ⟨e | x, u⟩
  · rw [hrun] at hposted
    refine ⟨first, other, u, ?_⟩
    dsimp only
    split_ifs with hconflict
    · obtain ⟨m, hended⟩ := hposted.conflict e rfl hconflict
      have hlisting : Advance ⟨Request.IsQuiet p.keyring, fun _ => False⟩ u
          ((p.workspaces : Act σ τ (List Workspace)).on u).2 :=
        p.keeps_workspaces (Advance.course _) (fun _ h => h) u
      rcases hlist : (p.workspaces : Act σ τ (List Workspace)).on u with ⟨f | ws, v⟩
      · rw [hlist] at hlisting
        exact {
          posted := ⟨_, hposted, fun hnone => absurd hended (hnone m)⟩
          quiet := hlisting
          taken := fun m' hended' => by simp [hlist] }
      · rw [hlist] at hlisting
        exact {
          posted := ⟨_, hposted, fun hnone => absurd hended (hnone m)⟩
          quiet := hlisting
          taken := fun m' hended' => by
            obtain rfl := Except.error.inj (hposted.taken m' hended')
            simp [hlist, named?] }
    · have hnone (m : String) : ¬ Ended createOperation (first ++ other) 409 m := fun hended => by
        obtain rfl := Except.error.inj (hposted.taken m hended)
        exact hconflict rfl
      exact {
        posted := ⟨_, hposted, fun _ => ⟨rfl, rfl⟩⟩
        quiet := .refl _ u
        taken := fun m hended => absurd hended (hnone m) }
  · rw [hrun] at hposted
    exact ⟨first, other, u, {
      posted := ⟨_, hposted, fun _ => ⟨rfl, rfl⟩⟩
      quiet := .refl _ u
      taken := fun m hended => by cases hposted.taken m hended }⟩

end Provider

end SessionKeeper

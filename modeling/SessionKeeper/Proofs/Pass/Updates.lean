import SessionKeeper.Proofs.Checked
import SessionKeeper.Proofs.Circuit.Budget
import SessionKeeper.Proofs.Pass.Course
import SessionKeeper.Proofs.Pass.Owned
import SessionKeeper.Proofs.Provider.Talk

/-!
# Updates of stages

A check puts at most one accepted update, to the target of its pass, and only if the workspaces of the session call
for it.

* `Event.update?`, `Event.isRefused` : updates in the journal, and those that the registry did not accept.
* `Tells`, `Refuses` : which updates were accepted between two worlds, and whether one was not.
* `Asked` : one update was asked for, with further attempts; an accepted update is not repeated.
* `Pass.Moves`, `Pass.Answers.asked` : whether a pass asks for an update, and that its answer does.
* `Check.updates`, `Check.updates_cases`, `Check.updates_processed` : the updates of a check.
-/

namespace SessionKeeper

variable {σ τ : Type}

/-! ## Updates in the journal -/

/-- The stage that a request puts. -/
def Request.update? (r : Request) : Option SessionStatus :=
  match r.body with
  | some (.object [("status", .text word)]) => if r.method = "PUT" then SessionStatus.ofText? word else none
  | _ => none

theorem Request.update_of_method {r : Request} (h : r.method ≠ "PUT") : r.update? = none := by
  unfold update?
  split
  · rw [if_neg h]
  · rfl

theorem Request.IsQuiet.update {k : Keyring} {r : Request} (h : r.IsQuiet k) : r.update? = none := by
  apply Request.update_of_method
  rcases h with hget | ⟨token, hrenewal⟩
  · rw [hget]
    decide
  · have hpost : r.method = "POST" := hrenewal.method
    rw [hpost]
    decide

theorem Registry.update_updateCall {g : Registry τ} {id : String} {status : SessionStatus} {r : Request}
    (h : (g.updateCall id status).Carries r) : r.update? = some status := by
  have hbody : r.body = some (.object [("status", .text status.text)]) := h.body
  have hmethod : r.method = "PUT" := h.method
  unfold Request.update?
  rw [hbody, hmethod]
  cases status <;> rfl

theorem Change.Asks.update {k : Keeper τ} {s : Session} {d : Change} {r : Request} (h : d.Asks k s r)
    (hd : ∀ status updated, d ≠ .update status updated) : r.update? = none := by
  have hpost (hmethod : r.method = "POST") : r.update? = none := by
    apply Request.update_of_method
    rw [hmethod]
    decide
  cases d with
  | create created =>
    have hsends : k.creation.Sends s r := h
    exact hsends.quiet_or_post.elim Request.IsQuiet.update hpost
  | update status updated => exact absurd rfl (hd status updated)
  | start id started => exact h.elim Request.IsQuiet.update fun hstart => hpost hstart.method

def Event.update? : Event τ → Option SessionStatus
  | .sent r _ => r.update?
  | _ => none

/-- An update that the registry did not accept. -/
def Event.isRefused : Event τ → Bool
  | .sent r x => r.update?.isSome && !x.isAccepted
  | _ => false

/-- Between the worlds exactly these updates were put, the latest first, and all were accepted. -/
def Tells (us : List SessionStatus) (w v : World σ τ) : Prop :=
  ∃ news, v.journal = news ++ w.journal ∧ news.filterMap Event.update? = us ∧ ∀ e ∈ news, e.isRefused = false

/-- Between the worlds an update was put that was not accepted. -/
def Refuses (w v : World σ τ) : Prop := ∃ news, v.journal = news ++ w.journal ∧ ∃ e ∈ news, e.isRefused = true

section

variable {us vs : List SessionStatus} {u v w : World σ τ}

theorem Tells.of_event {e : Event τ} (hjournal : v.journal = e :: w.journal) (he : e.isRefused = false) :
    Tells e.update?.toList w v := by
  refine ⟨[e], hjournal, ?_, by simpa using he⟩
  cases hupdate : e.update? with
  | none => simp [hupdate]
  | some status => simp [hupdate]

theorem Tells.silent (hjournal : v.journal = w.journal) : Tells [] w v := ⟨[], hjournal, rfl, by simp⟩

theorem Tells.trans (huv : Tells us u v) (hvw : Tells vs v w) : Tells (vs ++ us) u w := by
  obtain ⟨older, holder, rfl, haccepted⟩ := huv
  obtain ⟨newer, hnewer, rfl, haccepted'⟩ := hvw
  refine ⟨newer ++ older, by rw [hnewer, holder, List.append_assoc], List.filterMap_append, fun e he => ?_⟩
  rcases List.mem_append.mp he with he | he
  · exact haccepted' e he
  · exact haccepted e he

theorem Tells.before (huv : Tells [] u v) (hvw : Tells us v w) : Tells us u w := by
  have hboth := huv.trans hvw
  rwa [List.append_nil] at hboth

theorem Tells.refuses (huv : Tells us u v) (hvw : Refuses v w) : Refuses u w := by
  obtain ⟨older, holder, -, -⟩ := huv
  obtain ⟨newer, hnewer, e, he, hrefused⟩ := hvw
  exact ⟨newer ++ older, by rw [hnewer, holder, List.append_assoc], e, List.mem_append_left _ he, hrefused⟩

theorem Refuses.tells (huv : Refuses u v) (hvw : Tells us v w) : Refuses u w := by
  obtain ⟨older, holder, e, he, hrefused⟩ := huv
  obtain ⟨newer, hnewer, -, -⟩ := hvw
  exact ⟨newer ++ older, by rw [hnewer, holder, List.append_assoc], e, List.mem_append_right _ he, hrefused⟩

theorem Refuses.trans (huv : Refuses u v) (hvw : Refuses v w) : Refuses u w := by
  obtain ⟨older, holder, e, he, hrefused⟩ := huv
  obtain ⟨newer, hnewer, -⟩ := hvw
  exact ⟨newer ++ older, by rw [hnewer, holder, List.append_assoc], e, List.mem_append_right _ he, hrefused⟩

theorem Tells.course : Course (fun r => r.update? = none) (Tells [] : World σ τ → World σ τ → Prop) where
  trans huv hvw := huv.before hvw
  silent hjournal _ := Tells.silent hjournal
  sent {w v r x} hr hjournal _ := by
    have hsent : Event.update? (.sent r x : Event τ) = none := hr
    have htold := Tells.of_event hjournal (by simp [Event.isRefused, hr])
    rwa [hsent] at htold
  slept _ hjournal _ := Tells.of_event hjournal rfl

theorem Guard.tells_isOpen [Timeline τ] [Surroundings σ τ] (g : Guard τ) (key : String) (w : World σ τ) :
    Tells [] w ((g.isOpen key).on w).2 := Tells.of_event (g.journal_isOpen key w) rfl

theorem Guard.tells_record [Surroundings σ τ] {α : Type} (g : Guard τ) (key : String) (outcome : Except Fault α)
    (w : World σ τ) : Tells [] w ((g.record key outcome).on w).2 := by
  cases outcome with
  | ok a => exact Tells.of_event (Guard.journal_succeed key w) rfl
  | error e => exact Tells.of_event (g.journal_fail key w) rfl

theorem Tells.minds [Timeline τ] [Surroundings σ τ] (g : Guard τ) (key : String) :
    g.Minds key (Tells [] : World σ τ → World σ τ → Prop) :=
  .of_steps (fun huv hvw => huv.before hvw) (g.tells_isOpen key) (g.tells_record key)

end

/-! ## One update, with further attempts -/

/-- An update to the stage was asked for: it was refused, or nothing was put and nothing is done, or it was put once
and accepted. -/
def Asked (status : SessionStatus) (done : Prop) (w v : World σ τ) : Prop :=
  Refuses w v ∨ (Tells [] w v ∧ ¬ done) ∨ Tells [status] w v

namespace Asked

variable {status : SessionStatus} {done : Prop} {u v w : World σ τ}

theorem before (huv : Tells [] u v) (h : Asked status done v w) : Asked status done u w := by
  rcases h with hrefused | ⟨htold, hdone⟩ | htold
  · exact Or.inl (huv.refuses hrefused)
  · exact Or.inr (Or.inl ⟨huv.before htold, hdone⟩)
  · exact Or.inr (Or.inr (huv.before htold))

theorem after (h : Asked status done u v) (hvw : Tells [] v w) : Asked status done u w := by
  rcases h with hrefused | ⟨htold, hdone⟩ | htold
  · exact Or.inl (hrefused.tells hvw)
  · exact Or.inr (Or.inl ⟨htold.trans hvw, hdone⟩)
  · exact Or.inr (Or.inr (htold.trans hvw))

theorem refuses (huv : Refuses u v) (h : Asked status done v w) : Asked status done u w := by
  rcases h with hrefused | ⟨htold, -⟩ | htold
  · exact Or.inl (huv.trans hrefused)
  · exact Or.inl (huv.tells htold)
  · exact Or.inl (huv.tells htold)

theorem imp {done' : Prop} (h : Asked status done w v) (hdone : done' → done) : Asked status done' w v :=
  h.imp_right (Or.imp_left fun hnot => ⟨hnot.1, fun h => hnot.2 (hdone h)⟩)

end Asked

namespace Registry

/-- What cannot be read in the answer to an update does not count, unless it is nested too deeply. -/
theorem readUpdated_error {reply : Reply} {e : Fault} (h : readUpdated reply = .error e) :
    e = .tooDeep ∧ reply.IsTooDeep := by
  unfold readUpdated at h
  cases hvalue : reply.value updateOperation with
  | error f =>
    rw [hvalue] at h
    rcases Reply.value_error hvalue with ⟨m, rfl⟩ | ⟨rfl, hdeep⟩
    · cases h
    · exact ⟨(Except.error.inj h).symm, hdeep⟩
  | ok data =>
    rw [hvalue] at h
    cases hfilled : data.isFilled with
    | false => simp [bind, Except.bind, hfilled, pure, Except.pure] at h
    | true =>
      cases hbody : readBody Session.read updateOperation data with
      | ok s => simp [bind, Except.bind, hfilled, hbody, pure, Except.pure] at h
      | error f =>
        obtain ⟨issues, -, rfl⟩ := Checked.toExcept_eq_error.mp hbody
        simp [bind, Except.bind, hfilled, hbody, malformed, isFormat] at h

theorem readUpdated_deep {reply : Reply} (h : reply.IsTooDeep) : readUpdated reply = .error .tooDeep := by
  unfold readUpdated
  rw [h.value]
  rfl

/-- One attempt puts at most one update. Once that is accepted, whatever goes wrong with the answer is not worth
another attempt. -/
theorem updateStatus_asked [Surroundings σ τ] (r : Registry τ) (id : String) (status : SessionStatus)
    {w v : World σ τ} {outcome : Except Fault (Option Session)}
    (hrun : (r.updateStatus id status).on w = (outcome, v)) :
    Refuses w v ∨ (Tells [] w v ∧ ∃ e, outcome = .error e) ∨
      (Tells [status] w v ∧ ∀ e, outcome = .error e → e.isRetryable = false) := by
  unfold updateStatus at hrun
  rw [Act.on_bind] at hrun
  cases hrequest : (r.updateCall id status).request with
  | error e =>
    rw [Call.send_unmade hrequest, Act.next_error] at hrun
    cases hrun
    exact Or.inr (Or.inl ⟨Tells.silent rfl, e, rfl⟩)
  | ok q =>
    obtain ⟨x, u, hjournal, hsend⟩ := Call.send_on hrequest w
    have hupdate : Event.update? (.sent q x : Event τ) = some status :=
      update_updateCall (Call.carries_of_request hrequest)
    rw [hsend] at hrun
    cases hrefused : (Event.sent q x : Event τ).isRefused with
    | true =>
      have hrefuses : Refuses w u := ⟨[.sent q x], hjournal, _, List.mem_singleton_self _, hrefused⟩
      cases houtcome : x.outcome q.url (r.updateCall id status).operation with
      | error e =>
        rw [houtcome, Act.next_error] at hrun
        cases hrun
        exact Or.inl hrefuses
      | ok reply =>
        rw [houtcome, Act.next_ok, Act.on_ofExcept] at hrun
        cases hrun
        exact Or.inl hrefuses
    | false =>
      have htold : Tells [status] w u := by
        have h := Tells.of_event hjournal hrefused
        rwa [hupdate] at h
      have haccepted : x.isAccepted = true := by
        have hstatus : q.update? = some status := hupdate
        simpa [Event.isRefused, hstatus] using hrefused
      rcases Exchange.outcome_accepted haccepted q.url (r.updateCall id status).operation with
        ⟨reply, -, hok⟩ | ⟨e, herror, hstray⟩
      · rw [hok, Act.next_ok, Act.on_ofExcept] at hrun
        cases hrun
        refine Or.inr (Or.inr ⟨htold, fun e he => ?_⟩)
        rw [(readUpdated_error he).1]
        rfl
      · rw [herror, Act.next_error] at hrun
        cases hrun
        refine Or.inr (Or.inr ⟨htold, fun e' he' => ?_⟩)
        cases he'
        exact Fault.isRetryable_eq_false hstray

end Registry

namespace Guard

variable [Timeline τ] [Surroundings σ τ] {α : Type} {g : Guard τ} {key : String} {call : Act σ τ α}
  {status : SessionStatus}

/-- Further attempts follow only on attempts that put nothing, or whose update was refused. -/
theorem retryFrom_asked
    (hcall : ∀ {w v outcome}, call.on w = (outcome, v) → Refuses w v ∨ (Tells [] w v ∧ ∃ e, outcome = .error e) ∨
      (Tells [status] w v ∧ ∀ e, outcome = .error e → e.isRetryable = false))
    (attempt : Nat) (last : Option Fault) (left : Nat) (w : World σ τ) :
    Asked status (∃ a, ((g.retryFrom key call attempt last left).on w).1 = .ok a) w
      ((g.retryFrom key call attempt last left).on w).2 := by
  induction left using Nat.strongRecOn generalizing attempt last w with
  | ind left ih =>
    have hasked := g.tells_isOpen key w
    have hattempt {u v : World σ τ} {e : Fault} (hrun : call.on u = (.error e, v)) : Asked status False u v := by
      rcases hcall hrun with hrefused | ⟨htold, -⟩ | ⟨htold, -⟩
      · exact Or.inl hrefused
      · exact Or.inr (Or.inl ⟨htold, id⟩)
      · exact Or.inr (Or.inr htold)
    have hfailed (v : World σ τ) (e : Fault) : Tells [] v ((g.fail key).on v).2 :=
      g.tells_record key (.error e : Except Fault α) v
    have honward := g.retryFrom_onward key call attempt last left w
    generalize (g.retryFrom key call attempt last left).on w = r at honward ⊢
    cases honward with
    | rejected hask =>
      rw [hask] at hasked
      exact Or.inr (Or.inl ⟨hasked, nofun⟩)
    | @returned u v a hask hrun =>
      rw [hask] at hasked
      have hsucceeded : Tells [] v ((succeed key).on v).2 := g.tells_record key (.ok a) v
      rcases hcall hrun with hrefused | ⟨-, e, he⟩ | ⟨htold, -⟩
      · exact Or.inl (hasked.refuses (hrefused.tells hsucceeded))
      · cases he
      · exact Or.inr (Or.inr (hasked.before (htold.trans hsucceeded)))
    | @raised u v e hask hrun =>
      rw [hask] at hasked
      exact (((hattempt hrun).before hasked).after (hfailed v e)).imp fun ⟨a, ha⟩ => nomatch ha
    | @stuck u v z e f n hask hrun he hleft hpause =>
      have hpaused := keeps_pause Tells.course g attempt ((g.fail key).on v).2
      rw [hpause] at hpaused
      rw [hask] at hasked
      exact (((hattempt hrun).before hasked).after ((hfailed v e).before hpaused)).imp fun ⟨a, ha⟩ => nomatch ha
    | @again u v z e n hask hrun he hleft hpause =>
      have hpaused := keeps_pause Tells.course g attempt ((g.fail key).on v).2
      rw [hpause] at hpaused
      rw [hask] at hasked
      subst hleft
      have hrest := ih n (Nat.lt_succ_self n) (attempt + 1) (some e) z
      have hquiet : Tells [] v z := (hfailed v e).before hpaused
      -- the attempt put nothing that was accepted, for it is worth another one
      rcases hcall hrun with hrefused | ⟨htold, -⟩ | ⟨-, hfinal⟩
      · exact (Asked.refuses (hrefused.tells hquiet) hrest).before hasked
      · exact (hrest.before (htold.before hquiet)).before hasked
      · rw [hfinal e rfl] at he
        cases he

end Guard

/-! ## Changes -/

section

variable [Timeline τ] [Surroundings σ τ] {k : Keeper τ} {s : Session} {u v w : World σ τ} {ds : List Change}
  {ws : List Workspace} {p : Pass} {outcome : Except Fault Unit}

theorem Change.Does.asked {status : SessionStatus} {updated : Except Fault (Option Session)}
    (h : (Change.update status updated).Does k s w v) : Asked status (∃ x, updated = .ok x) w v := by
  have hrun : (k.registry.updateStatusRetrying s.id status).on w = (updated, v) := h
  have hasked : Asked status (∃ x, ((k.registry.updateStatusRetrying s.id status).on w).1 = .ok x) w
      ((k.registry.updateStatusRetrying s.id status).on w).2 :=
    Guard.retryFrom_asked (fun hcall => k.registry.updateStatus_asked s.id status hcall) 1 none _ w
  rwa [hrun] at hasked

theorem Changes.tells (h : Changes k s ds w v) (hnone : ∀ d ∈ ds, ∀ status updated, d ≠ .update status updated) :
    Tells [] w v :=
  h.keeps Tells.course (.of_all Tells.minds k) fun d hd _ hr => hr.update (hnone d hd)

theorem Changes.append {es : List Change} (h : Changes k s (ds ++ es) w v) :
    ∃ u, Changes k s ds w u ∧ Changes k s es u v := by
  induction ds generalizing w with
  | nil => exact ⟨w, rfl, h⟩
  | cons d ds ih =>
    obtain ⟨x, hd, hrest⟩ := h
    obtain ⟨u, hds, hes⟩ := ih hrest
    exact ⟨u, ⟨x, hd, hds⟩, hes⟩

/-- A pass that moves the session creates a workspace if need be, and then updates the stage, unless the creation
ends the handling. -/
theorem Pass.Answers.moved (h : p.Answers ws ds outcome) (hmoves : p.Moves ws) :
    ∃ creations : List (Except Fault (Option Workspace)),
      (∃ e, ds = creations.map .create ∧ outcome = .error e) ∨
      ∃ updated, ds = creations.map .create ++ [.update p.target updated] ∧ outcome = settled updated := by
  cases p with
  | new =>
    obtain ⟨howned, hbare⟩ := h
    by_cases hws : ws = []
    · rcases hbare hws with ⟨created, updated, -, rfl, rfl⟩ | ⟨e, -, rfl, rfl⟩
      · exact ⟨[created], Or.inr ⟨updated, rfl, rfl⟩⟩
      · exact ⟨[.error e], Or.inl ⟨e, rfl, rfl⟩⟩
    · obtain ⟨updated, rfl, rfl⟩ := howned hws
      exact ⟨[], Or.inr ⟨updated, rfl, rfl⟩⟩
  | active =>
    obtain ⟨updated, rfl, rfl⟩ := h.2.1 hmoves.1 hmoves.2
    exact ⟨[], Or.inr ⟨updated, rfl, rfl⟩⟩
  | inactive =>
    obtain ⟨updated, rfl, rfl⟩ := h.1 hmoves
    exact ⟨[], Or.inr ⟨updated, rfl, rfl⟩⟩

theorem Pass.Answers.asked (h : p.Answers ws ds outcome) (hchanges : Changes k s ds w v) :
    (p.Moves ws → Asked p.target (outcome = .ok ()) w v) ∧ (¬ p.Moves ws → Tells [] w v) := by
  refine ⟨fun hmoves => ?_, fun hstays => ?_⟩
  · have hcreated (creations : List (Except Fault (Option Workspace))) {u v : World σ τ}
        (h : Changes k s (creations.map .create) u v) : Tells [] u v := by
      refine h.tells fun d hd status updated hupdate => ?_
      obtain ⟨created, -, rfl⟩ := List.mem_map.mp hd
      cases hupdate
    obtain ⟨creations, ⟨e, rfl, rfl⟩ | ⟨updated, rfl, rfl⟩⟩ := h.moved hmoves
    · exact Or.inr (Or.inl ⟨hcreated creations hchanges, nofun⟩)
    · obtain ⟨u, hcreations, z, hupdate, rfl⟩ := hchanges.append
      refine (hupdate.asked.before (hcreated creations hcreations)).imp fun hdone => ?_
      cases updated with
      | ok x => exact ⟨x, rfl⟩
      | error e => cases hdone
  · refine hchanges.tells fun d hd status updated hupdate => ?_
    subst hupdate
    rcases h.mem hd with ⟨hmoves, -⟩ | ⟨-, created, hd⟩ | ⟨-, x, -, -, started, hd⟩
    · exact hstays hmoves
    · cases hd
    · cases hd

end

/-! ## Checks -/

namespace Check

variable [Timeline τ] [Surroundings σ τ] {k : Keeper τ} {t : Check σ τ}

def updates (k : Keeper τ) (t : Check σ τ) : List SessionStatus := ((t.news k).filterMap Event.update?).reverse

/-- Every update of the check was accepted. -/
def Accepts (k : Keeper τ) (t : Check σ τ) : Prop := ∀ e ∈ t.news k, e.isRefused = false

/-- The circuit let the check through, and the handling of its session succeeded. -/
def Processed (k : Keeper τ) (t : Check σ τ) : Prop :=
  t.isRejected k = false ∧ ((k.handle t.report.pass t.session).on t.report.counts (t.world k)).1.1 = .ok ()

instance (k : Keeper τ) (t : Check σ τ) : Decidable (t.Accepts k) :=
  inferInstanceAs (Decidable (∀ e ∈ t.news k, e.isRefused = false))

instance (k : Keeper τ) (t : Check σ τ) : Decidable (t.Processed k) :=
  have (r : Except Fault Unit) : Decidable (r = .ok ()) :=
    match r with
    | .ok () => isTrue rfl
    | .error _ => isFalse nofun
  inferInstanceAs (Decidable (_ ∧ _ = (.ok () : Except Fault Unit)))

theorem Processed.read (h : t.Processed k) : ∃ ws v, (k.owned t.session).on (t.world k) = (.ok ws, v) := by
  rcases hread : (k.owned t.session).on (t.world k) with ⟨e | ws, v⟩
  · have hfailed := h.2
    rw [Keeper.handle_unread hread] at hfailed
    cases hfailed
  · exact ⟨ws, v, rfl⟩

theorem updates_of_tells {us : List SessionStatus} (h : Tells us t.before (t.after k)) : t.updates k = us.reverse := by
  obtain ⟨news, hnews, rfl, -⟩ := h
  unfold updates
  rw [t.news_eq hnews]

theorem not_refuses (h : t.Accepts k) : ¬ Refuses t.before (t.after k) := by
  rintro ⟨news, hnews, e, he, hrefused⟩
  rw [← t.news_eq hnews] at he
  rw [h e he] at hrefused
  cases hrefused

theorem asked_of_read {ws : List Workspace} {v : World σ τ} (hpassed : t.isRejected k = false)
    (hread : (k.owned t.session).on (t.world k) = (.ok ws, v)) :
    (t.report.pass.Moves ws → Asked t.report.pass.target (t.Processed k) t.before (t.after k)) ∧
      (¬ t.report.pass.Moves ws → Tells [] t.before (t.after k)) := by
  have hask : (k.guard.isOpen t.session.circuitKey).on t.before = (false, t.world k) := Prod.ext hpassed rfl
  have hasked : Tells [] t.before (t.world k) := k.guard.tells_isOpen t.session.circuitKey t.before
  have hreading : Tells [] (t.world k) ((k.owned t.session).on (t.world k)).2 :=
    k.keeps_owned Tells.course t.session (fun r hr => hr.update) (t.world k)
  rw [hread] at hreading
  obtain ⟨ds, outcome, z, hanswer, hchanges, hrun⟩ := Keeper.handle_read hread t.report.pass t.report.counts
  have hafter : t.after k = ((k.guard.record t.session.circuitKey outcome).on z).2 := by
    unfold Check.after
    rw [Keeper.step_passed hask hrun]
  have hrecorded := k.guard.tells_record t.session.circuitKey outcome z
  rw [← hafter] at hrecorded
  obtain ⟨hmoved, hstayed⟩ := hanswer.asked hchanges
  refine ⟨fun hmoves => ?_, fun hstays => ?_⟩
  · refine (((hmoved hmoves).before (hasked.before hreading)).after hrecorded).imp fun hprocessed => ?_
    have hdone := hprocessed.2
    rwa [hrun] at hdone
  · exact ((hasked.before hreading).before (hstayed hstays)).before hrecorded

/-- A check puts nothing, or the target of its pass, if that moves the session with the workspaces that it read. -/
theorem updates_cases (haccepts : t.Accepts k) : t.updates k = [] ∨
    t.updates k = [t.report.pass.target] ∧
      ∃ ws v, (k.owned t.session).on (t.world k) = (.ok ws, v) ∧ t.report.pass.Moves ws := by
  have hasked : Tells [] t.before (t.world k) := k.guard.tells_isOpen t.session.circuitKey t.before
  cases hrejected : t.isRejected k with
  | true =>
    have hafter : t.after k = t.world k := by
      unfold Check.after
      rw [Keeper.step_rejected (Prod.ext hrejected rfl)]
      rfl
    rw [← hafter] at hasked
    exact Or.inl (updates_of_tells hasked)
  | false =>
    rcases hread : (k.owned t.session).on (t.world k) with ⟨e | ws, v⟩
    · have hreading : Tells [] (t.world k) ((k.owned t.session).on (t.world k)).2 :=
        k.keeps_owned Tells.course t.session (fun r hr => hr.update) (t.world k)
      rw [hread] at hreading
      have hafter : t.after k = ((k.guard.record t.session.circuitKey (.error e : Except Fault Unit)).on v).2 := by
        unfold Check.after
        rw [Keeper.step_passed (Prod.ext hrejected rfl) (Keeper.handle_unread hread t.report.pass t.report.counts)]
      have hrecorded := k.guard.tells_record t.session.circuitKey (.error e : Except Fault Unit) v
      rw [← hafter] at hrecorded
      exact Or.inl (updates_of_tells ((hasked.before hreading).before hrecorded))
    · obtain ⟨hmoved, hstayed⟩ := asked_of_read hrejected hread
      by_cases hmoves : t.report.pass.Moves ws
      · rcases hmoved hmoves with hrefused | ⟨htold, -⟩ | htold
        · exact absurd hrefused (not_refuses haccepts)
        · exact Or.inl (updates_of_tells htold)
        · exact Or.inr ⟨updates_of_tells htold, ws, v, rfl, hmoves⟩
      · exact Or.inl (updates_of_tells (hstayed hmoves))

/-- A check that succeeds puts the target of its pass if that moves the session. -/
theorem updates_processed {ws : List Workspace} {v : World σ τ} (haccepts : t.Accepts k) (hprocessed : t.Processed k)
    (hread : (k.owned t.session).on (t.world k) = (.ok ws, v)) (hmoves : t.report.pass.Moves ws) :
    t.updates k = [t.report.pass.target] := by
  rcases (asked_of_read hprocessed.1 hread).1 hmoves with hrefused | ⟨-, hfailed⟩ | htold
  · exact absurd hrefused (not_refuses haccepts)
  · exact absurd hprocessed hfailed
  · exact updates_of_tells htold

end Check

end SessionKeeper

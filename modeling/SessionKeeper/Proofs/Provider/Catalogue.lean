import SessionKeeper.Proofs.Answers
import SessionKeeper.Proofs.Checked
import SessionKeeper.Proofs.Pass.Run

/-!
# The catalogue of templates is whole

The catalogue is what the provider lists, all of it, or the fixed templates, all of them.

* `Template.ofProvider_only`, `Provider.templatesIn_only` : what an item that is no template, and an answer that lists
  none, fails of.
* `Provider.Offers` : the last message lists the templates.
* `Provider.Strays`, `Provider.Talk.failure` : why a request fails, if it is not that a remote call did.
* `Provider.templates_on` : the catalogue as one equation.
* `Provider.IsFirst`, `Provider.catalogue_whole` : what the catalogue is, and which template is found in it.
-/

namespace SessionKeeper

variable {σ τ : Type}

/-! ## Reading templates -/

theorem Template.ofProvider_only (j : Json) : Fault.Only (Provider.isCatalogueFault · = true) (ofProvider j) := by
  cases j with
  | object fields =>
    unfold ofProvider
    dsimp only
    cases Json.lookup "id" fields with
    | none => exact .error rfl
    | some id =>
      intro e he
      obtain ⟨issues, -, rfl⟩ := Checked.toExcept_eq_error.mp he
      rfl
  | _ => exact .error rfl

namespace Provider

def templatesIn (reply : Reply) : Except Fault (List Template) := do
  let data ← reply.value templatesOperation
  readTemplates data

theorem templatesIn_only (reply : Reply) :
    Fault.Only (fun e => isCatalogueFault e = true ∨ (e = .tooDeep ∧ reply.IsTooDeep)) (templatesIn reply) := by
  refine .bind (fun e he => ?_) fun data _ => ?_
  · rcases Reply.value_error he with ⟨m, rfl⟩ | hdeep
    · exact Or.inl rfl
    · exact Or.inr hdeep
  · unfold readTemplates
    split
    · exact .mapM fun j _ => (Template.ofProvider_only j).imp fun _ => Or.inl
    · exact .error (Or.inl rfl)

theorem templatesIn_ok {reply : Reply} {ts : List Template} : templatesIn reply = .ok ts ↔
    ∃ items, reply.value templatesOperation = .ok (.list items) ∧
      List.Forall₂ (fun j t => Template.ofProvider j = .ok t) items ts := by
  unfold templatesIn
  cases reply.value templatesOperation with
  | error e => exact ⟨nofun, fun ⟨_, h, _⟩ => by cases h⟩
  | ok data =>
    cases data with
    | list items =>
      show items.mapM Template.ofProvider = .ok ts ↔ _
      simp [mapM_eq_ok_iff]
    | _ => exact ⟨nofun, fun ⟨_, h, _⟩ => by cases h⟩

/-- The last message is a call with an answer whose status is below 400, and the answer lists the templates. -/
def Offers (ms : List Message) (ts : List Template) : Prop :=
  ∃ r reply items, ms.getLast? = some (.call r (.received reply)) ∧ reply.status < 400 ∧
    reply.value templatesOperation = .ok (.list items) ∧
    List.Forall₂ (fun j t => Template.ofProvider j = .ok t) items ts

/-! ## How requests fail -/

variable [Surroundings σ τ] {p : Provider} {c : Call} {w v : World σ τ} {ms : List Message}

/-- Why a request fails, if it is not that a remote call did: with the token in use the call cannot be written, the
token cannot be written into the call that renews it, or an answer cannot be taken or read. -/
inductive Strays (p : Provider) (c : Call) (ms : List Message) (v : World σ τ) (e : Fault) : Prop
  | unwritten (hcall : (c.bearing v.credential.shown?).request = .error e)
  | unrenewed {token : String} (htoken : v.credential.current? = some token)
    (hcall : (p.keyring.call token).request = .error e)
  | unread {r : Request} {x : Exchange} (hm : .call r x ∈ ms ∨ .renewal r x ∈ ms) (hunread : x.IsUnread r.url)

theorem credential_unrenewed {k : Keyring} {e : Fault} (h : k.Talk w ms (.error e) v) :
    v.credential = w.credential := by
  cases h with
  | missing => rfl
  | unsent => rfl
  | failed => rfl

theorem isCall_of_renewal {k : Keyring} {outcome : Except Fault String} (h : k.Talk w ms outcome v) :
    ∀ m ∈ ms, m.isCall = false := by
  intro m hm
  obtain ⟨_, _, _, rfl, -⟩ := h.renewals m hm
  rfl

theorem blame_renewal {e : Fault} (he : e.isRefusal = true) (why : String) (cause : Option Fault) :
    ∃ m operation status issues cause', blame e (.renewal why cause) =
      .remote .unauthorized m operation status issues cause' := by
  unfold Fault.isRefusal at he
  split at he
  · exact ⟨_, _, _, _, _, rfl⟩
  · cases he

namespace Talk

theorem failure {e : Fault} (h : p.Talk c w ms (.error e) v) :
    (∃ kind m operation status issues cause, e = .remote kind m operation status issues cause) ∨
      (e.isOwn = false ∧ Strays p c ms v e) := by
  have hone {r : Request} {x : Exchange} (hm : .call r x ∈ ms) (hx : x.outcome r.url c.operation = .error e) :
      (∃ kind m operation status issues cause, e = .remote kind m operation status issues cause) ∨
        (e.isOwn = false ∧ Strays p c ms v e) := by
    rcases Exchange.outcome_failure hx with ⟨kind, m, status, rfl⟩ | ⟨hown, hstray⟩
    · exact Or.inl ⟨_, _, _, _, _, _, rfl⟩
    · exact Or.inr ⟨hown, .unread (Or.inl hm) (Or.inl hstray)⟩
  generalize houtcome : (.error e : Except Fault Reply) = outcome at h
  cases h with
  | unsent hcall =>
    obtain rfl := Except.error.inj houtcome
    exact Or.inr ⟨Fault.isOwn_of_isUnwritable (Call.request_only _ e hcall), .unwritten hcall⟩
  | settled => exact hone List.mem_cons_self houtcome.symm
  | unrenewed hcall hanswer hrefusal hrenewal =>
    obtain rfl := Except.error.inj houtcome
    -- a failed renewal is a cause of the refusal, which stays; only what is no failure of a renewal takes its place
    rcases hrenewal.cause with ⟨why, cause, rfl⟩ | ⟨hstray, old, hold, hwhy⟩
    · obtain ⟨m, operation, status, issues, cause', heq⟩ := blame_renewal hrefusal why cause
      exact Or.inl ⟨_, _, _, _, _, _, heq⟩
    · rw [blame_stray hstray]
      refine Or.inr ⟨hstray, ?_⟩
      rcases hwhy with hunwritten | ⟨r, x, hm, hx⟩
      · exact .unrenewed (by rw [credential_unrenewed hrenewal]; exact hold) hunwritten
      · exact .unread (Or.inr (List.mem_cons_of_mem _ hm)) (Exchange.unread_iff.mpr ⟨_, hx, hstray⟩)
  | unrepeated _ _ _ _ hagain =>
    obtain rfl := Except.error.inj houtcome
    exact Or.inr ⟨Fault.isOwn_of_isUnwritable (Call.request_only _ e hagain), .unwritten hagain⟩
  | @repeated _ r' _ _ _ u =>
    exact hone (r := r') (x := u.answer r') (by simp) houtcome.symm

theorem last_answer {reply : Reply} (h : p.Talk c w ms (.ok reply) v) :
    ∃ r, ms.getLast? = some (.call r (.received reply)) ∧ reply.status < 400 := by
  generalize houtcome : (.ok reply : Except Fault Reply) = outcome at h
  cases h with
  | unsent => cases houtcome
  | @settled r =>
    obtain ⟨hanswer, haccepted⟩ := Exchange.outcome_ok houtcome.symm
    exact ⟨r, by rw [hanswer]; rfl, by simpa [Reply.isAccepted] using haccepted⟩
  | unrenewed => cases houtcome
  | unrepeated => cases houtcome
  | @repeated _ r' _ _ _ u =>
    obtain ⟨hanswer, haccepted⟩ := Exchange.outcome_ok houtcome.symm
    exact ⟨r', by rw [hanswer, ← List.cons_append, List.getLast?_concat], by simpa [Reply.isAccepted] using haccepted⟩

omit [Surroundings σ τ] in
theorem isCatalogueFault_of_accepted {reply : Reply} {url : Url} {operation : String} {e : Fault}
    (h : (Exchange.received reply).outcome url operation = .error e) (hlow : reply.status < 400) :
    isCatalogueFault e = false := by
  have hreply : reply.outcome url operation = .error e := h
  have haccepted : reply.isAccepted = true := by simpa [Reply.isAccepted] using hlow
  unfold Reply.outcome at hreply
  split_ifs at hreply
  obtain rfl := Except.error.inj hreply
  rfl

omit [Surroundings σ τ] in
theorem refused_last {r q : Request} {x : Exchange} {operation : String} {e : Fault} {renewal : List Message}
    {reply : Reply} (hanswer : x.outcome r.url operation = .error e) (hrefusal : e.isRefusal = true)
    (hrenewal : ∀ m ∈ renewal, m.isCall = false)
    (hlast : (Message.call r x :: renewal).getLast? = some (.call q (.received reply))) : 400 ≤ reply.status := by
  rcases List.eq_nil_or_concat' renewal with rfl | ⟨before, m, rfl⟩
  · obtain ⟨m, hends, -⟩ := Exchange.endsIn_of_isRefusal hanswer hrefusal
    obtain ⟨reply', rfl, hstatus, -⟩ := hends.received
    simp only [List.getLast?_singleton, Option.some.injEq, Message.call.injEq, Exchange.received.injEq] at hlast
    rw [← hlast.2, hstatus]
    decide
  · rw [← List.cons_append, List.getLast?_concat] at hlast
    have hcall := hrenewal m (by simp)
    rw [Option.some.inj hlast] at hcall
    cases hcall

/-- When a request fails though its last answer has a status below 400, the fixed templates do not stand in. -/
theorem last_failure {e : Fault} (h : p.Talk c w ms (.error e) v) {q : Request} {reply : Reply}
    (hlast : ms.getLast? = some (.call q (.received reply))) (hlow : reply.status < 400) :
    isCatalogueFault e = false := by
  generalize houtcome : (.error e : Except Fault Reply) = outcome at h
  cases h with
  | unsent => cases hlast
  | settled =>
    obtain ⟨rfl, hanswer⟩ := Message.call.inj (Option.some.inj hlast)
    rw [hanswer] at houtcome
    exact isCatalogueFault_of_accepted houtcome.symm hlow
  | unrenewed hcall hanswer hrefusal hrenewal | unrepeated hcall hanswer hrefusal hrenewal =>
    have hhigh := refused_last hanswer hrefusal (isCall_of_renewal hrenewal) hlast
    omega
  | repeated =>
    rw [← List.cons_append, List.getLast?_concat] at hlast
    obtain ⟨rfl, hanswer⟩ := Message.call.inj (Option.some.inj hlast)
    rw [hanswer] at houtcome
    exact isCatalogueFault_of_accepted houtcome.symm hlow

end Talk

/-! ## The catalogue -/

def templatesCall (p : Provider) : Call := p.callTo "GET" "/templates" templatesOperation none

/-- What is made of the outcome of the request for the templates. -/
def catalogueOf (outcome : Except Fault Reply) : Except Fault (List Template) :=
  match outcome >>= templatesIn with
  | .ok ts => .ok ts
  | .error e => if isCatalogueFault e then .ok Template.fallback else .error e

theorem templates_on (p : Provider) (w : World σ τ) : (p.templates).on w =
    (catalogueOf ((p.request p.templatesCall).on w).1, ((p.request p.templatesCall).on w).2) := by
  have hfetched : (do
      let data ← p.fetch (p.callTo "GET" "/templates" templatesOperation none)
      Act.ofExcept (readTemplates data) : Act σ τ (List Template)).on w =
        (((p.request p.templatesCall).on w).1 >>= templatesIn, ((p.request p.templatesCall).on w).2) := by
    show Act.on (p.fetch p.templatesCall >>= fun data => Act.ofExcept (readTemplates data)) w = _
    rw [Act.on_bind_ofExcept, fetch, Act.on_bind_ofExcept, bind_assoc]
    rfl
  unfold templates
  rw [Act.on_bind, Act.on_attempt, Act.next_ok, hfetched]
  unfold catalogueOf
  dsimp only
  cases ((p.request p.templatesCall).on w).1 >>= templatesIn with
  | ok ts => rfl
  | error e =>
    dsimp only
    split_ifs
    · rfl
    · rfl

/-- The catalogue is whole, or the request strayed, or its answer is nested too deeply. -/
theorem Talk.catalogue {outcome : Except Fault Reply} (h : p.Talk p.templatesCall w ms outcome v) :
    (∃ ts, Offers ms ts ∧ catalogueOf outcome = .ok ts) ∨
      ((∀ ts, ¬ Offers ms ts) ∧ catalogueOf outcome = .ok Template.fallback) ∨
      ∃ e, catalogueOf outcome = .error e ∧ e.isOwn = false ∧ Strays p p.templatesCall ms v e := by
  cases outcome with
  | ok reply =>
    obtain ⟨r, hlast, hlow⟩ := h.last_answer
    have hcatalogue : catalogueOf (.ok reply) = match templatesIn reply with
      | .ok ts => .ok ts
      | .error e => if isCatalogueFault e then .ok Template.fallback else .error e := rfl
    rw [hcatalogue]
    cases hread : templatesIn reply with
    | ok ts =>
      obtain ⟨items, hvalue, hitems⟩ := templatesIn_ok.mp hread
      exact Or.inl ⟨ts, ⟨r, reply, items, hlast, hlow, hvalue, hitems⟩, rfl⟩
    | error e =>
      rcases templatesIn_only reply e hread with hkind | ⟨rfl, hdeep⟩
      · refine Or.inr (Or.inl ⟨?_, if_pos hkind⟩)
        rintro ts ⟨q, reply', items, hlast', -, hvalue, hitems⟩
        obtain ⟨-, hsame⟩ := Message.call.inj (Option.some.inj (hlast.symm.trans hlast'))
        obtain rfl := Exchange.received.inj hsame
        cases hread.symm.trans (templatesIn_ok.mpr ⟨items, hvalue, hitems⟩)
      · refine Or.inr (Or.inr ⟨.tooDeep, rfl, rfl, ?_⟩)
        exact .unread (Or.inl (List.mem_of_getLast? hlast)) (Or.inr ⟨reply, rfl, hlow, hdeep⟩)
  | error e =>
    have hcatalogue : catalogueOf (.error e) = if isCatalogueFault e then .ok Template.fallback else .error e := rfl
    rw [hcatalogue]
    cases hkind : isCatalogueFault e with
    | true =>
      refine Or.inr (Or.inl ⟨?_, if_pos rfl⟩)
      rintro ts ⟨q, reply, items, hlast, hlow, -⟩
      rw [h.last_failure hlast hlow] at hkind
      cases hkind
    | false =>
      refine Or.inr (Or.inr ⟨e, if_neg Bool.false_ne_true, ?_⟩)
      rcases h.failure with ⟨_, _, _, _, _, _, rfl⟩ | hstrays
      · cases hkind
      · exact hstrays

def IsFirst (ts : List Template) (id : String) : Option Template → Prop
  | some t => ∃ before after, ts = before ++ t :: after ∧ t.id = id ∧ ∀ s ∈ before, s.id ≠ id
  | none => ∀ t ∈ ts, t.id ≠ id

omit [Surroundings σ τ] in
theorem isFirst_find (ts : List Template) (id : String) : IsFirst ts id (ts.find? (·.id == id)) := by
  cases hfind : ts.find? (·.id == id) with
  | none => simpa [IsFirst] using hfind
  | some t =>
    obtain ⟨hid, before, after, hts, hbefore⟩ := List.find?_eq_some_iff_append.mp hfind
    exact ⟨before, after, hts, by simpa using hid, by simpa using hbefore⟩

theorem template_on (p : Provider) (id : String) (w : World σ τ) : (p.template? id).on w =
    (((p.templates).on w).1.map (·.find? (·.id == id)), ((p.templates).on w).2) := by
  unfold template?
  rw [Act.on_bind]
  rcases (p.templates).on w with ⟨e | ts, v⟩ <;> rfl

/-- **The catalogue is whole.** Whatever the provider answers, also to the renewal of a refused token, the catalogue has
one template for each item of the list in the last answer, in order, or it is the fixed catalogue, where there is no
such list. It can only fail if the call or the renewal cannot be written, or an answer to one of the messages cannot be
taken or read. The template of an id is the first of the catalogue that has it, and there is none if none has. -/
theorem catalogue_whole (p : Provider) (w : World σ τ) :
    ∃ ms outcome, p.Talk p.templatesCall w ms outcome ((p.templates).on w).2 ∧
      ((∃ ts, Offers ms ts ∧ ((p.templates).on w).1 = .ok ts) ∨
        ((∀ ts, ¬ Offers ms ts) ∧ ((p.templates).on w).1 = .ok Template.fallback) ∨
        ∃ e, ((p.templates).on w).1 = .error e ∧ e.isOwn = false ∧
          Strays p p.templatesCall ms ((p.templates).on w).2 e) ∧
      ∀ id, ((p.template? id).on w).2 = ((p.templates).on w).2 ∧
        (∀ ts, ((p.templates).on w).1 = .ok ts → ∃ found, ((p.template? id).on w).1 = .ok found ∧ IsFirst ts id found) ∧
        ∀ e, ((p.templates).on w).1 = .error e → ((p.template? id).on w).1 = .error e := by
  obtain ⟨ms, htalk⟩ := p.request_talk p.templatesCall w
  refine ⟨ms, _, by rw [templates_on]; exact htalk, ?_, fun id => ?_⟩
  · rw [templates_on]
    exact htalk.catalogue
  · rw [template_on]
    refine ⟨rfl, fun ts hts => ⟨_, by rw [hts]; rfl, isFirst_find ts id⟩, fun e he => by rw [he]; rfl⟩

end Provider

/-! ## A run -/

/-- The provider fails with a body that cannot be shown. -/
def Rehearsal.garbling : Rehearsal := { plain with routes := [("GET /api/v2/templates", [.unshown 500])] }

/-- The fixed templates do not stand in for those of a provider whose failure cannot be shown. -/
theorem Provider.catalogue_garbled :
    ¬ ∃ ts, (Keeper.confirming.provider.templates.on Rehearsal.garbling.world).1 = .ok ts := by
  have hfails : Keeper.confirming.provider.templates.Raises Rehearsal.garbling.world fun _ _ => True := by
    decide +kernel
  obtain ⟨e, he, -⟩ := hfails.exists_on
  rintro ⟨ts, hts⟩
  cases he.symm.trans hts

end SessionKeeper

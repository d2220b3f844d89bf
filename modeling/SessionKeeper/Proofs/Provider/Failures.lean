import SessionKeeper.Proofs.Pass.Run
import SessionKeeper.Proofs.Provider.Talk

/-!
# How the operations of the provider fail

The operations that read workspaces fail of what the provider answers. Nearly all of that is a fault of the keeper's
own, which its passes can live with; what is not is listed here.

* `Workspace.misfit?`, `Provider.Page.isStuck` : items and pages that are of a kind which nobody looked at.
* `Act.Tells` : what an action adds to the journal, and what that says about its result or its failure.
* `Provider.Explains` : what the journal says about a failure.
* `Provider.failures_explained` : it explains every failure of the operations.
-/

namespace SessionKeeper

variable {σ τ α β : Type}

/-! ## Items -/

namespace Workspace

/-- Whether resources are filled, but cannot be looked into. -/
def isFlat : Json → Bool
  | .bool b => b
  | .number n => !n.isZero
  | _ => false

/-- What an item fails of before its fields are read: its latest build is filled but no object, or the resources of
that build are filled but cannot be looked into. -/
def misfit? (j : Json) : Option Fault :=
  match j.field "latest_build" with
  | .object build => if isFlat ((Json.object build).field "resources") then some .wrongKind else none
  | build => if build.isFilled then some .noParts else none

theorem firstResource_only (j : Json) (hfilled : j.isFilled = true) :
    Fault.Only (fun e => (∃ place, e = .missingKey place) ∨ (isFlat j = true ∧ e = .wrongKind)) (firstResource? j) := by
  cases j with
  | null => cases hfilled
  | bool b => exact .error (Or.inr ⟨hfilled, rfl⟩)
  | number n => exact .error (Or.inr ⟨hfilled, rfl⟩)
  | text s => exact .ok _
  | list items => exact .ok _
  | object fields => exact .error (Or.inl ⟨_, rfl⟩)

theorem healthOf_only (build : Fields) :
    Fault.Only (fun e => (∃ place, e = .missingKey place) ∨
      (isFlat ((Json.object build).field "resources") = true ∧ e = .wrongKind)) (healthOf build) := by
  unfold healthOf
  dsimp only
  split_ifs with hfilled
  · refine .bind (firstResource_only _ hfilled) fun first _ => ?_
    split <;> exact .ok _
  · exact .ok _

/-- The latest build of an item. -/
def buildOf (j : Json) : Except Fault Fields :=
  match (j.field "latest_build").orElse (.object []) with
  | .object build => .ok build
  | _ => .error .noParts

theorem ofProvider_eq (fields : Fields) : ofProvider (.object fields) = (do
    let build ← buildOf (.object fields)
    let health ← healthOf build
    match Json.lookup "id" fields with
    | none => .error (.missingKey (.name "id"))
    | some id =>
      (ofParts id.plain fields (((Json.lookup "status" build).getD .null).orElse unknownWord)
        health).toExcept .invalid) := by
  have hbuild : buildOf (.object fields) =
      match ((Json.lookup "latest_build" fields).getD .null).orElse (.object []) with
      | .object build => .ok build
      | _ => .error .noParts := rfl
  rw [hbuild]
  unfold ofProvider
  dsimp only
  cases ((Json.lookup "latest_build" fields).getD .null).orElse (.object []) <;> rfl

/-- The misfits are an item whose build is none, and one whose build has flat resources. -/
theorem misfit_eq (j : Json) : misfit? j = match buildOf j with
    | .ok build => if isFlat ((Json.object build).field "resources") then some .wrongKind else none
    | .error e => some e := by
  unfold misfit? buildOf Json.orElse
  split_ifs with hfilled
  · cases hbuild : j.field "latest_build" with
    | object build => rfl
    | _ => rw [hbuild] at hfilled; exact if_pos hfilled
  · cases hbuild : j.field "latest_build" with
    | object build =>
      rw [hbuild] at hfilled
      have hempty : build = [] := by simpa [Json.isFilled] using hfilled
      rw [hempty]
    | _ => rw [hbuild] at hfilled; exact if_neg hfilled

theorem ofProvider_only (fields : Fields) :
    Fault.Only (fun e => (∃ place, e = .missingKey place) ∨ (∃ issues, e = .invalid issues) ∨
      misfit? (.object fields) = some e) (ofProvider (.object fields)) := by
  rw [ofProvider_eq]
  refine .bind (fun e hbuild => ?_) fun build hbuild => .bind ?_ fun health _ => ?_
  · rw [misfit_eq, hbuild]
    exact Or.inr (Or.inr rfl)
  · refine (healthOf_only build).imp fun e he => ?_
    rcases he with hmissing | ⟨hflat, rfl⟩
    · exact Or.inl hmissing
    · rw [misfit_eq, hbuild]
      exact Or.inr (Or.inr (if_pos hflat))
  · cases Json.lookup "id" fields with
    | none => exact .error (Or.inl ⟨_, rfl⟩)
    | some id =>
      dsimp only
      cases ofParts id.plain fields _ health with
      | ok w => exact .ok w
      | bad issues => exact .error (Or.inr (Or.inl ⟨issues, rfl⟩))

theorem healthOf_flat {build : Fields} (h : isFlat ((Json.object build).field "resources") = true) :
    healthOf build = .error .wrongKind := by
  have hresources : (Json.lookup "resources" build).getD .null = (Json.object build).field "resources" := rfl
  unfold healthOf
  dsimp only
  rw [hresources]
  cases hkind : (Json.object build).field "resources" with
  | bool b =>
    rw [hkind] at h
    have hfilled : (Json.bool b).isFilled = true := h
    rw [if_pos hfilled]
    rfl
  | number n =>
    rw [hkind] at h
    have hfilled : (Json.number n).isFilled = true := h
    rw [if_pos hfilled]
    rfl
  | _ => rw [hkind] at h; cases h

theorem ofProvider_misfit {fields : Fields} {e : Fault} (h : misfit? (.object fields) = some e) :
    ofProvider (.object fields) = .error e := by
  rw [misfit_eq] at h
  rw [ofProvider_eq]
  cases hbuild : buildOf (.object fields) with
  | error f =>
    rw [hbuild] at h
    obtain rfl := Option.some.inj h
    rfl
  | ok build =>
    rw [hbuild] at h
    dsimp only at h
    split_ifs at h with hflat
    obtain rfl := Option.some.inj h
    show (do
      let health ← healthOf build
      _) = _
    rw [healthOf_flat hflat]
    rfl

theorem misfit_kind {j : Json} {e : Fault} (h : misfit? j = some e) : e = .noParts ∨ e = .wrongKind := by
  unfold misfit? at h
  split at h
  · split_ifs at h
    exact Or.inr (Option.some.inj h).symm
  · split_ifs at h
    exact Or.inl (Option.some.inj h).symm

theorem isOwn_misfit {j : Json} {e : Fault} (h : misfit? j = some e) : e.isOwn = false := by
  rcases misfit_kind h with rfl | rfl <;> rfl

end Workspace

namespace Provider

theorem readWorkspace_only (operation : String) (j : Json) :
    Fault.Only (fun e => (∃ m issues, e = unusable m operation issues) ∨ Workspace.misfit? j = some e)
      (readWorkspace operation j) := by
  cases j with
  | object fields =>
    unfold readWorkspace
    dsimp only
    cases hread : Workspace.ofProvider (.object fields) with
    | ok w => exact .ok w
    | error e =>
      rcases Workspace.ofProvider_only fields e hread with ⟨place, rfl⟩ | ⟨issues, rfl⟩ | hmisfit
      · exact .error (Or.inl ⟨_, _, rfl⟩)
      · exact .error (Or.inl ⟨_, _, rfl⟩)
      · refine .error (Or.inr ?_)
        rcases Workspace.misfit_kind hmisfit with rfl | rfl <;> exact hmisfit
  | _ => exact .error (Or.inl ⟨_, _, rfl⟩)

theorem readWorkspace_misfit {j : Json} {e : Fault} (h : Workspace.misfit? j = some e) (operation : String) :
    readWorkspace operation j = .error e := by
  cases j with
  | object fields =>
    unfold readWorkspace
    dsimp only
    rw [Workspace.ofProvider_misfit h]
    rcases Workspace.misfit_kind h with rfl | rfl <;> rfl
  | _ => cases h

/-! ## Pages -/

/-- Whether a cursor cannot be looked up among those that were used. -/
def isUnfound : Json → Bool
  | .list _ | .object _ => true
  | _ => false

/-- Whether the search for the page after this one cannot go on: there are a cursor and a number of items, but the
number is none, or the cursor cannot be looked up. -/
def Page.isStuck (page : Page) : Bool :=
  page.cursor.isFilled && match page.count with
    | .null => false
    | count => (numberOf? count).isNone || isUnfound page.cursor

theorem isShort_only (collected : Nat) (count : Json) :
    Fault.Only (fun e => e = .wrongKind ∧ count ≠ .null ∧ (numberOf? count).isNone = true)
      (isShort collected count) := by
  cases count with
  | null => exact .ok _
  | bool b => exact .ok _
  | number n => exact .ok _
  | _ => exact .error ⟨rfl, nofun, rfl⟩

theorem isStuck_eq {page : Page} (hcursor : page.cursor.isFilled = true) (hcount : page.count ≠ .null) :
    page.isStuck = ((numberOf? page.count).isNone || isUnfound page.cursor) := by
  unfold Page.isStuck
  rw [hcursor]
  cases hkind : page.count with
  | null => exact absurd hkind hcount
  | _ => rfl

theorem nextCursor_only (collected : Nat) (page : Page) (seen : List Json) :
    Fault.Only (fun e => e = .wrongKind ∧ page.isStuck = true) (nextCursor? collected page seen) := by
  unfold nextCursor?
  cases hcursor : page.cursor.isFilled with
  | false => exact .ok none
  | true =>
    show Fault.Only _ (isShort collected page.count >>= fun short => _)
    refine .bind (fun e he => ?_) fun short hshort => ?_
    · obtain ⟨hkind, hcount, hnone⟩ := isShort_only collected page.count e he
      exact ⟨hkind, by rw [isStuck_eq hcursor hcount, hnone]; rfl⟩
    · cases short with
      | false => exact .ok none
      | true =>
        have hcount : page.count ≠ .null := fun hnull => by
          rw [hnull] at hshort
          cases hshort
        rw [isStuck_eq hcursor hcount]
        cases page.cursor with
        | list items => exact .error ⟨rfl, Bool.or_true _⟩
        | object fields => exact .error ⟨rfl, Bool.or_true _⟩
        | _ => exact .ok _

end Provider

/-! ## What an action tells -/

/-- Wherever it is done, an action adds news to the journal, and its result or its failure is as they say. -/
def Act.Tells (a : Act σ τ α) (good : List (Event τ) → α → Prop) (bad : List (Event τ) → Fault → Prop) : Prop :=
  ∀ w, ∃ news, (a.on w).2.journal = news ++ w.journal ∧
    (∀ x, (a.on w).1 = .ok x → good news x) ∧ ∀ e, (a.on w).1 = .error e → bad news e

namespace Act.Tells

variable {good good' : List (Event τ) → α → Prop} {bad bad' : List (Event τ) → Fault → Prop}

theorem pure {a : α} (h : good [] a) : (pure a : Act σ τ α).Tells good bad := by
  refine fun _ => ⟨[], rfl, fun x hx => ?_, fun e he => by cases he⟩
  obtain rfl : a = x := Except.ok.inj hx
  exact h

theorem throw {e : Fault} (h : bad [] e) : (throw e : Act σ τ α).Tells good bad := by
  refine fun _ => ⟨[], rfl, fun x hx => (by cases hx), fun f hf => ?_⟩
  obtain rfl : e = f := Except.error.inj hf
  exact h

theorem ofExcept {r : Except Fault α} (hgood : ∀ a, r = .ok a → good [] a) (hbad : Fault.Only (bad []) r) :
    (ofExcept r : Act σ τ α).Tells good bad := fun _ => ⟨[], rfl, hgood, hbad⟩

theorem imp {a : Act σ τ α} (h : a.Tells good bad) (hgood : ∀ news x, good news x → good' news x)
    (hbad : ∀ news e, bad news e → bad' news e) : a.Tells good' bad' := by
  intro w
  obtain ⟨news, hjournal, hok, herror⟩ := h w
  exact ⟨news, hjournal, fun x hx => hgood news x (hok x hx), fun e he => hbad news e (herror e he)⟩

theorem bind {good' : List (Event τ) → β → Prop} {a : Act σ τ α} {f : α → Act σ τ β} (ha : a.Tells good bad)
    (hf : ∀ x earlier, good earlier x →
      (f x).Tells (fun later y => good' (later ++ earlier) y) (fun later e => bad (later ++ earlier) e)) :
    (a >>= f).Tells good' bad := by
  intro w
  obtain ⟨earlier, hjournal, hok, herror⟩ := ha w
  rw [on_bind]
  rcases hrun : a.on w with ⟨e | x, v⟩
  · rw [hrun] at hjournal herror
    refine ⟨earlier, hjournal, fun _ hx => (by cases hx), fun f hf => herror f ?_⟩
    exact congrArg Except.error (Except.error.inj hf)
  · rw [hrun] at hjournal hok
    obtain ⟨later, hlater, hresult⟩ := hf x earlier (hok x rfl) v
    refine ⟨later ++ earlier, ?_, hresult⟩
    rw [next_ok, hlater, List.append_assoc, ← hjournal]

theorem bind_ofExcept {good' : List (Event τ) → β → Prop} {r : Except Fault α} {f : α → Act σ τ β}
    (hbad : Fault.Only (bad []) r) (hf : ∀ x, r = .ok x → (f x).Tells good' bad) :
    (Act.ofExcept r >>= f).Tells good' bad := by
  have hread : (Act.ofExcept r : Act σ τ α).Tells (fun news x => news = [] ∧ r = .ok x) bad :=
    .ofExcept (fun x hx => ⟨rfl, hx⟩) hbad
  refine bind hread ?_
  rintro x _ ⟨rfl, hx⟩
  simpa using hf x hx

theorem attempt {bad' : List (Event τ) → Fault → Prop} {a : Act σ τ α} (h : a.Tells good bad) :
    a.attempt.Tells (fun news o => match o with
      | .ok x => good news x
      | .error e => bad news e) bad' := by
  intro w
  obtain ⟨news, hjournal, hok, herror⟩ := h w
  refine ⟨news, hjournal, fun o ho => ?_, fun _ he => by cases he⟩
  obtain rfl : (a.on w).1 = o := Except.ok.inj ho
  cases hout : (a.on w).1 with
  | ok x => exact hok x hout
  | error e => exact herror e hout

end Act.Tells

/-! ## Failures that the journal explains -/

namespace Provider

/-- A value that the provider sent. -/
def Sends (news : List (Event τ)) (data : Json) : Prop :=
  ∃ r x operation, .sent r x ∈ news ∧ x.value r.url operation = .ok data

/-- The items of a value: the value itself, and what it lists. -/
def IsItem (data j : Json) : Prop := j = data ∨ ∃ page, readPage data = .ok page ∧ j ∈ page.items

def SendsItem (news : List (Event τ)) (j : Json) : Prop := ∃ data, Sends news data ∧ IsItem data j

def SendsPage (news : List (Event τ)) (page : Page) : Prop := ∃ data, Sends news data ∧ readPage data = .ok page

/-- An accepted answer to a message of the operation. -/
def Answers (news : List (Event τ)) (operation : String) (reply : Reply) : Prop :=
  ∃ r x, .sent r x ∈ news ∧ x.outcome r.url operation = .ok reply

/-- The keeper's own faults: a value cannot be used, a message failed, or the renewal after a refusal did. -/
inductive Known (news : List (Event τ)) : Fault → Prop
  | unusable (message operation : String) (status : Option Int) (issues : Option (List Issue)) :
    Known news (.remote .format message operation status issues none)
  | failed {r : Request} {x : Exchange} {operation : String} {e : Fault} (hsent : .sent r x ∈ news)
    (houtcome : x.outcome r.url operation = .error e) (hown : e.isOwn = true) : Known news e
  | unrenewed {r : Request} {x : Exchange} {operation : String} {e : Fault} (hsent : .sent r x ∈ news)
    (houtcome : x.outcome r.url operation = .error e) (hrefusal : e.isRefusal = true) (why : String)
    (cause : Option Fault) : Known news (withCause e (.renewal why cause))

/-- The others: a call cannot be written, the answer to a message not be taken, an accepted answer is nested too
deeply, an item is a misfit, or a page is stuck. -/
inductive Stray (p : Provider) (news : List (Event τ)) : Fault → Prop
  | unwritten {c : Call} {e : Fault} (haddress : (∃ path, c.address = p.root ++ path) ∨ c.address = p.keyring.address)
    (hcall : c.request = .error e) : Stray p news e
  | untaken {r : Request} {x : Exchange} {operation : String} {e : Fault} (hsent : .sent r x ∈ news)
    (houtcome : x.outcome r.url operation = .error e) (hstray : e.isOwn = false) : Stray p news e
  | unread {operation : String} {reply : Reply} (hanswer : Answers news operation reply) (hdeep : reply.IsTooDeep) :
    Stray p news .tooDeep
  | misfit {j : Json} {e : Fault} (hitem : SendsItem news j) (hmisfit : Workspace.misfit? j = some e) : Stray p news e
  | stuck {page : Page} (hpage : SendsPage news page) (hstuck : page.isStuck = true) : Stray p news .wrongKind

/-- What the journal says about a failure. -/
def Explains (p : Provider) (news : List (Event τ)) (e : Fault) : Prop :=
  (e.isOwn = true ∧ Known news e) ∨ (e.isOwn = false ∧ p.Stray news e)

variable {p : Provider} {earlier later news : List (Event τ)} {e : Fault}

theorem Sends.of_subset {data : Json} (h : Sends earlier data) (hsub : earlier ⊆ news) : Sends news data := by
  obtain ⟨r, x, operation, hsent, hvalue⟩ := h
  exact ⟨r, x, operation, hsub hsent, hvalue⟩

theorem SendsItem.of_subset {j : Json} (h : SendsItem earlier j) (hsub : earlier ⊆ news) : SendsItem news j :=
  h.imp fun _ ⟨hdata, hitem⟩ => ⟨hdata.of_subset hsub, hitem⟩

theorem SendsPage.of_subset {page : Page} (h : SendsPage earlier page) (hsub : earlier ⊆ news) : SendsPage news page :=
  h.imp fun _ ⟨hdata, hpage⟩ => ⟨hdata.of_subset hsub, hpage⟩

theorem Answers.of_subset {operation : String} {reply : Reply} (h : Answers earlier operation reply)
    (hsub : earlier ⊆ news) : Answers news operation reply := by
  obtain ⟨r, x, hsent, houtcome⟩ := h
  exact ⟨r, x, hsub hsent, houtcome⟩

theorem Answers.sends {operation : String} {reply : Reply} {data : Json} (h : Answers news operation reply)
    (hdata : reply.value operation = .ok data) : Sends news data := by
  obtain ⟨r, x, hsent, houtcome⟩ := h
  refine ⟨r, x, operation, hsent, ?_⟩
  rw [Exchange.value, houtcome]
  exact hdata

namespace Explains

theorem of_subset (h : p.Explains earlier e) (hsub : earlier ⊆ news) : p.Explains news e := by
  rcases h with ⟨hown, hknown⟩ | ⟨hother, hstray⟩
  · refine Or.inl ⟨hown, ?_⟩
    cases hknown with
    | unusable m op status issues => exact .unusable m op status issues
    | failed hsent houtcome hown => exact .failed (hsub hsent) houtcome hown
    | unrenewed hsent houtcome hrefusal why cause => exact .unrenewed (hsub hsent) houtcome hrefusal why cause
  · refine Or.inr ⟨hother, ?_⟩
    cases hstray with
    | unwritten haddress hcall => exact .unwritten haddress hcall
    | untaken hsent houtcome hstray => exact .untaken (hsub hsent) houtcome hstray
    | unread hanswer hdeep => exact .unread (hanswer.of_subset hsub) hdeep
    | misfit hitem hmisfit => exact .misfit (hitem.of_subset hsub) hmisfit
    | stuck hpage hstuck => exact .stuck (hpage.of_subset hsub) hstuck

theorem unusable (m op : String) (status : Option Int) (issues : Option (List Issue)) :
    p.Explains news (.remote .format m op status issues none) := Or.inl ⟨rfl, .unusable m op status issues⟩

theorem of_outcome {r : Request} {x : Exchange} {operation : String} (hsent : .sent r x ∈ news)
    (houtcome : x.outcome r.url operation = .error e) : p.Explains news e := by
  cases hown : e.isOwn with
  | true => exact Or.inl ⟨hown, .failed hsent houtcome hown⟩
  | false => exact Or.inr ⟨hown, .untaken hsent houtcome hown⟩

theorem of_unwritten {c : Call} (haddress : (∃ path, c.address = p.root ++ path) ∨ c.address = p.keyring.address)
    (hcall : c.request = .error e) : p.Explains news e :=
  Or.inr ⟨Fault.isOwn_of_isUnwritable (Call.request_only c e hcall), .unwritten haddress hcall⟩

theorem of_item {j : Json} {operation : String} (hitem : SendsItem news j)
    (hread : readWorkspace operation j = .error e) : p.Explains news e := by
  rcases readWorkspace_only operation j e hread with ⟨m, issues, rfl⟩ | hmisfit
  · exact unusable m operation none issues
  · exact Or.inr ⟨Workspace.isOwn_misfit hmisfit, .misfit hitem hmisfit⟩

theorem of_answer {operation : String} {reply : Reply} (hanswer : Answers news operation reply)
    (hvalue : reply.value operation = .error e) : p.Explains news e := by
  rcases Reply.value_error hvalue with ⟨m, rfl⟩ | ⟨rfl, hdeep⟩
  · exact unusable _ _ _ _
  · exact Or.inr ⟨rfl, .unread hanswer hdeep⟩

theorem of_value {r : Request} {x : Exchange} {operation : String} (hsent : .sent r x ∈ news)
    (hvalue : x.value r.url operation = .error e) : p.Explains news e := by
  rcases Exchange.value_error_cases hvalue with houtcome | ⟨reply, houtcome, hreply⟩
  · exact of_outcome hsent houtcome
  · exact of_answer ⟨r, x, hsent, houtcome⟩ hreply

end Explains

variable [Surroundings σ τ]

theorem isOwn_withCause (e cause : Fault) : (withCause e cause).isOwn = e.isOwn := by
  cases e <;> rfl

theorem Talk.explains {c : Call} {ms : List Message} {w v : World σ τ} (haddress : ∃ path, c.address = p.root ++ path)
    (h : p.Talk c w ms (.error e) v) :
    p.Explains (Message.events ms : List (Event τ)) e := by
  generalize houtcome : (.error e : Except Fault Reply) = outcome at h
  cases h with
  | unsent hcall =>
    obtain rfl := Except.error.inj houtcome
    exact .of_unwritten (c := c.bearing _) (Or.inl haddress) hcall
  | settled hcall _ => exact .of_outcome (Message.mem_events List.mem_cons_self) houtcome.symm
  | unrenewed hcall hanswer hrefusal hrenewal =>
    obtain rfl := Except.error.inj houtcome
    rcases hrenewal.cause with ⟨why, cause, rfl⟩ | ⟨hstray, old, -, hunwritten | ⟨q, y, hmem, hfailed⟩⟩
    · refine Or.inl ⟨?_, .unrenewed (Message.mem_events List.mem_cons_self) hanswer hrefusal why cause⟩
      exact (isOwn_withCause _ _).trans (Fault.isOwn_of_isRefusal hrefusal)
    · rw [blame_stray hstray]
      exact .of_unwritten (Or.inr rfl) hunwritten
    · rw [blame_stray hstray]
      exact .of_value (Message.mem_events (List.mem_cons_of_mem _ hmem)) hfailed
  | unrepeated _ _ _ _ hagain =>
    obtain rfl := Except.error.inj houtcome
    exact .of_unwritten (c := c.bearing _) (Or.inl haddress) hagain
  | @repeated _ r' _ _ _ u =>
    exact .of_outcome (Message.mem_events (m := .call r' (u.answer r')) (by simp)) houtcome.symm

theorem request_tells (p : Provider) {c : Call} (haddress : ∃ path, c.address = p.root ++ path) :
    (p.request c : Act σ τ Reply).Tells
      (fun news reply => Answers news c.operation reply) p.Explains := by
  intro w
  obtain ⟨ms, htalk⟩ := p.request_talk c w
  refine ⟨Message.events ms, htalk.journal, fun reply hreply => ?_, fun e he => ?_⟩
  · rw [hreply] at htalk
    obtain ⟨r, x, hmem, houtcome⟩ := htalk.answered
    exact ⟨r, x, Message.mem_events hmem, houtcome⟩
  · rw [he] at htalk
    exact htalk.explains haddress

omit [Surroundings σ τ] in
theorem explains_after {good : List (Event τ) → α → Prop} {a : Act σ τ α} (h : a.Tells good p.Explains)
    (earlier : List (Event τ)) : a.Tells good fun later e => p.Explains (later ++ earlier) e :=
  h.imp (fun _ _ hgood => hgood) fun _ _ he => he.of_subset (List.subset_append_left _ _)

theorem fetch_tells (p : Provider) {c : Call} (haddress : ∃ path, c.address = p.root ++ path) :
    (p.fetch c : Act σ τ Json).Tells Sends p.Explains := by
  refine .bind (p.request_tells haddress) fun reply earlier hanswer => ?_
  exact .ofExcept (fun data hdata => hanswer.sends hdata) fun e he => .of_answer hanswer he

omit [Surroundings σ τ] in
theorem readPage_only (data : Json) : Fault.Only (fun e => ∃ m, e = unusable m listOperation none) (readPage data) := by
  unfold readPage
  split
  · exact .ok _
  · exact .ok _
  · split
    · exact .ok _
    · exact .error ⟨_, rfl⟩
  · exact .error ⟨_, rfl⟩

theorem page_tells (p : Provider) (cursor : Option Json) :
    (p.page cursor : Act σ τ Page).Tells SendsPage p.Explains := by
  refine .bind (p.fetch_tells ⟨"/workspaces", rfl⟩) fun data earlier hdata => ?_
  refine .ofExcept (fun page hpage => ⟨data, hdata, hpage⟩) fun e he => ?_
  obtain ⟨m, rfl⟩ := readPage_only data e he
  exact .unusable _ _ _ _

/-- What was collected and what is collected from the pages that are left was all sent, by induction on them. -/
theorem itemsFrom_tells (p : Provider) {earlier : List (Event τ)} {collected : List Json} {last : Page}
    (hlast : SendsPage earlier last) (hitems : ∀ j ∈ collected, SendsItem earlier j) (seen : List Json) (left : Nat) :
    (p.itemsFrom collected last seen left : Act σ τ (List Json)).Tells
      (fun later items => ∀ j ∈ items, SendsItem (later ++ earlier) j)
      (fun later e => p.Explains (later ++ earlier) e) := by
  have hstuck {news : List (Event τ)} (hstuck : last.isStuck = true) : p.Explains (news ++ earlier) .wrongKind :=
    Or.inr ⟨rfl, .stuck (hlast.of_subset (List.subset_append_right _ _)) hstuck⟩
  induction left generalizing earlier collected last seen with
  | zero =>
    unfold itemsFrom
    split_ifs with hcursor
    · refine .bind_ofExcept (fun e he => ?_) fun _ _ => .pure hitems
      obtain ⟨rfl, hcount, hnone⟩ := isShort_only _ _ e he
      exact hstuck (by rw [isStuck_eq hcursor hcount, hnone]; rfl)
    · exact .pure hitems
  | succ left ih =>
    unfold itemsFrom
    refine .bind_ofExcept (fun e he => ?_) fun cursor _ => ?_
    · obtain ⟨rfl, hpage⟩ := nextCursor_only _ _ _ e he
      exact hstuck hpage
    · cases cursor with
      | none => exact .pure hitems
      | some cursor =>
        refine .bind (explains_after (p.page_tells (some cursor)) earlier) fun next mid hnext => ?_
        have hbefore {j : Json} (hj : j ∈ collected) : SendsItem (mid ++ earlier) j :=
          (hitems j hj).of_subset (List.subset_append_right _ _)
        have hnext' : SendsPage (mid ++ earlier) next := hnext.of_subset (List.subset_append_left _ _)
        split_ifs
        · exact .pure fun j hj => hbefore hj
        · have hmore (j : Json) (hj : j ∈ collected ++ next.items) : SendsItem (mid ++ earlier) j := by
            rcases List.mem_append.mp hj with hj | hj
            · exact hbefore hj
            · obtain ⟨data, hdata, hpage⟩ := hnext'
              exact ⟨data, hdata, Or.inr ⟨next, hpage, hj⟩⟩
          simp only [List.append_assoc]
          exact ih hnext' hmore (cursor :: seen) fun hstuck =>
            Or.inr ⟨rfl, .stuck (hnext'.of_subset (List.subset_append_right _ _)) hstuck⟩

theorem workspaces_tells (p : Provider) :
    (p.workspaces : Act σ τ (List Workspace)).Tells (fun _ _ => True) p.Explains := by
  refine .bind (p.page_tells none) fun first earlier hfirst => ?_
  obtain ⟨data, hdata, hpage⟩ := hfirst
  have hitems (j : Json) (hj : j ∈ first.items) : SendsItem earlier j := ⟨data, hdata, Or.inr ⟨first, hpage, hj⟩⟩
  refine .bind (p.itemsFrom_tells ⟨data, hdata, hpage⟩ hitems [] (maxPages - 1)) fun items later hlater => ?_
  refine .ofExcept (fun _ _ => trivial) (.mapM fun j hj e he => ?_)
  exact .of_item (hlater j hj) he

theorem workspacesOf_tells (p : Provider) (id : String) :
    (p.workspacesOf id : Act σ τ (List Workspace)).Tells (fun _ _ => True) p.Explains :=
  .bind p.workspaces_tells fun _ _ _ => .pure trivial

theorem find_tells (p : Provider) (name : String) :
    (p.find name : Act σ τ (Option Workspace)).Tells (fun _ _ => True) p.Explains :=
  .bind p.workspaces_tells fun _ _ _ => .pure trivial

omit [Surroundings σ τ] in
theorem read_tells {earlier : List (Event τ)} {operation : String} {reply : Reply}
    (h : Answers earlier operation reply) :
    (do
      let data ← Act.ofExcept (reply.value operation)
      Act.ofExcept (readWorkspace operation data) : Act σ τ Workspace).Tells (fun _ _ => True)
      fun later e => p.Explains (later ++ earlier) e :=
  .bind_ofExcept (fun _ he => .of_answer h he) fun data hdata => .ofExcept (fun _ _ => trivial)
    fun _ he => .of_item ⟨data, h.sends hdata, Or.inl rfl⟩ he

theorem workspace_tells (p : Provider) (id : String) :
    (p.workspace? id : Act σ τ (Option Workspace)).Tells (fun _ _ => True) p.Explains := by
  unfold workspace?
  refine .bind (.attempt (p.request_tells ⟨"/workspaces/" ++ id, rfl⟩)) fun outcome earlier houtcome => ?_
  cases outcome with
  | ok reply =>
    refine .bind_ofExcept (fun e he => .of_answer houtcome he) fun data hdata => ?_
    refine .bind_ofExcept (fun e he => ?_) fun _ _ => .pure trivial
    exact .of_item ⟨data, houtcome.sends hdata, Or.inl rfl⟩ he
  | error e =>
    dsimp only
    split
    · exact .pure trivial
    · exact .throw houtcome

theorem create_tells (p : Provider) (name templateId : String) :
    (p.create name templateId : Act σ τ Workspace).Tells (fun _ _ => True) p.Explains := by
  unfold create
  refine .bind (.attempt (p.request_tells ⟨createPath, rfl⟩)) fun outcome earlier houtcome => ?_
  cases outcome with
  | ok reply =>
    have hreply : (pure reply : Act σ τ Reply).Tells (fun news reply => Answers (news ++ earlier) createOperation reply)
        fun later e => p.Explains (later ++ earlier) e := .pure houtcome
    refine .bind hreply fun reply later hanswer => ?_
    simpa only [List.append_assoc] using read_tells hanswer
  | error e =>
    dsimp only
    split_ifs
    · refine .bind (explains_after (p.request_tells ⟨createFallbackPath, rfl⟩) earlier)
        fun reply later hanswer => ?_
      have hanswer' : Answers (later ++ earlier) createOperation reply :=
        hanswer.of_subset (List.subset_append_left _ _)
      simpa only [List.append_assoc] using read_tells hanswer'
    · exact .throw houtcome

theorem createOrGet_tells (p : Provider) (name templateId : String) :
    (p.createOrGet name templateId : Act σ τ Workspace).Tells (fun _ _ => True) p.Explains := by
  unfold createOrGet
  refine .bind (.attempt (p.create_tells name templateId)) fun outcome earlier houtcome => ?_
  cases outcome with
  | ok w => exact .pure trivial
  | error e =>
    dsimp only
    split
    · refine .bind (explains_after (p.find_tells name) earlier) fun found later _ => ?_
      cases found with
      | some w => exact .pure trivial
      | none => exact .throw (houtcome.of_subset (List.subset_append_right _ _))
    · exact .throw houtcome

/-- **The failures of the operations that read workspaces.** Whatever the provider answers, each of them returns, or
fails of a fault of the keeper's own, unless a call could not be written, the answer to a message could not be taken or
is nested too deeply, an item that was sent is a misfit, or a page that was sent is stuck. A misfit is never read, and
what comes of it is none of the keeper's own faults. -/
theorem failures_explained (p : Provider) :
    (p.workspaces : Act σ τ (List Workspace)).Tells (fun _ _ => True) p.Explains ∧
    (∀ sessionId, (p.workspacesOf sessionId : Act σ τ (List Workspace)).Tells (fun _ _ => True) p.Explains) ∧
    (∀ id, (p.workspace? id : Act σ τ (Option Workspace)).Tells (fun _ _ => True) p.Explains) ∧
    (∀ name templateId, (p.create name templateId : Act σ τ Workspace).Tells (fun _ _ => True) p.Explains) ∧
    (∀ name templateId, (p.createOrGet name templateId : Act σ τ Workspace).Tells (fun _ _ => True) p.Explains) ∧
    ∀ operation j e, Workspace.misfit? j = some e → readWorkspace operation j = .error e ∧ e.isOwn = false :=
  ⟨p.workspaces_tells, p.workspacesOf_tells, p.workspace_tells, p.create_tells, p.createOrGet_tells,
    fun operation _ _ h => ⟨readWorkspace_misfit h operation, Workspace.isOwn_misfit h⟩⟩

end Provider

/-! ## A run -/

namespace Rehearsal

/-- The provider lists a workspace whose latest build is a list. -/
def misfitting : Rehearsal :=
  { plain with
    routes := [("GET /api/v2/workspaces",
      [answer 200 (.list [.object [("id", .text "a"), ("latest_build", .list [.text "x"])]])])] }

theorem misfitting_strays :
    Keeper.confirming.provider.workspaces.Raises misfitting.world fun e _ => e.isOwn = false := by
  decide +kernel

end Rehearsal

namespace Provider

/-- The list of workspaces can fail of something else than the keeper's own faults. -/
theorem misfit_escapes :
    ¬ (Keeper.confirming.provider.workspaces : Act Rehearsal Number (List Workspace)).Tells (fun _ _ => True)
      fun _ e => e.isOwn = true := by
  intro hown
  obtain ⟨news, -, -, herror⟩ := hown Rehearsal.misfitting.world
  obtain ⟨e, he, hstray⟩ := Rehearsal.misfitting_strays.exists_on
  rw [herror e he] at hstray
  cases hstray

theorem failures_explained_misfit :
    ∃ news e, (Keeper.confirming.provider.workspaces.on Rehearsal.misfitting.world).1 = .error e ∧
      Keeper.confirming.provider.Stray (news : List (Event Number)) e := by
  obtain ⟨news, -, -, herror⟩ := (failures_explained Keeper.confirming.provider).1 Rehearsal.misfitting.world
  obtain ⟨e, he, hstray⟩ := Rehearsal.misfitting_strays.exists_on
  rcases herror e he with ⟨hown, -⟩ | ⟨-, hwhy⟩
  · rw [hown] at hstray
    cases hstray
  · exact ⟨news, e, he, hwhy⟩

end Provider

end SessionKeeper

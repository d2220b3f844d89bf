import SessionKeeper.Proofs.Answers
import SessionKeeper.Proofs.Creation.Stages
import SessionKeeper.Proofs.Workspace.Name

/-!
# What the provider showed

Every workspace that the provider's operations return was in an answer of the provider, and the journal keeps that
answer.

* `Provider.created`, `Provider.listed` : the workspaces in an answer.
* `Provider.Gave`, `Provider.Listed`, `Provider.Shown` : the workspaces that a journal shows.
* `Provider.workspaces_listed`, `Provider.createOrGet_shown` : what is listed, made or found was shown.
* `Provider.Lawful`, `Provider.OneOfName` : requested names are given and kept, and none is given twice.
* `Creation.createFor_shown` : the workspace that a creation returns.
-/

namespace SessionKeeper

variable {σ τ α : Type} [Surroundings σ τ]

/-! ## Accepted answers -/

/-- The call was sent, and the reply to it accepted; the journal of the world shows that. -/
def Call.Answered (c : Call) (reply : Reply) (w : World σ τ) : Prop :=
  ∃ r, c.Carries r ∧ .sent r (.received reply) ∈ w.journal ∧ reply.isAccepted = true

theorem Call.send_ok {c : Call} {w v : World σ τ} {reply : Reply} (h : c.send.on w = (.ok reply, v)) :
    c.Answered reply v := by
  unfold send at h
  obtain ⟨r, u, hrequest, h⟩ := Act.on_bind_ok h
  obtain ⟨x, z, hexchange, h⟩ := Act.on_bind_ok h
  have hcarries : c.request = .ok r := congrArg Prod.fst hrequest
  have hreply : x.outcome r.url c.operation = .ok reply := congrArg Prod.fst h
  obtain ⟨rfl, haccepted⟩ := Exchange.outcome_ok hreply
  obtain rfl : z = v := congrArg Prod.snd h
  refine ⟨r, carries_of_request hcarries, ?_, haccepted⟩
  have hanswer : (Surroundings.exchange r u.outside).1 = .received reply :=
    Except.ok.inj (congrArg Prod.fst hexchange)
  have hworld : ((Effect.exchange r).on u).2 = z := congrArg Prod.snd hexchange
  rw [← hworld, ← hanswer]
  exact List.mem_cons_self

namespace Provider

variable {p : Provider} {c : Call} {w v : World σ τ} {reply : Reply}

theorem sendOnce_ok (h : (sendOnce c : Act σ τ Reply).on w = (.ok reply, v)) : c.Answered reply v := by
  unfold sendOnce authorized at h
  obtain ⟨c', u, hauthorized, h⟩ := Act.on_bind_ok h
  obtain rfl : { c with accept := Keyring.acceptedType, token := w.credential.shown? } = c' :=
    Except.ok.inj (congrArg Prod.fst hauthorized)
  obtain ⟨r, ⟨accept, token, hcarries⟩, hsent, haccepted⟩ := Call.send_ok h
  exact ⟨r, ⟨accept, token, hcarries⟩, hsent, haccepted⟩

theorem request_ok (h : (p.request c : Act σ τ Reply).on w = (.ok reply, v)) : c.Answered reply v := by
  unfold request at h
  obtain ⟨outcome, u, hfirst, h⟩ := Act.on_bind_ok h
  cases outcome with
  | ok r =>
    obtain rfl : r = reply := Except.ok.inj (congrArg Prod.fst h)
    obtain rfl : u = v := congrArg Prod.snd h
    exact sendOnce_ok (Act.of_attempt hfirst)
  | error e =>
    dsimp only at h
    split at h
    · obtain ⟨renewed, z, -, h⟩ := Act.on_bind_ok h
      cases renewed with
      | ok key => exact sendOnce_ok h
      | error cause =>
        dsimp only at h
        split at h
        · cases congrArg Prod.fst h
        · cases congrArg Prod.fst h
    · cases congrArg Prod.fst h

/-! ## Workspaces in answers -/

def created (reply : Reply) : Except Fault Workspace := do
  let data ← reply.value createOperation
  readWorkspace createOperation data

def listed (reply : Reply) : List Workspace :=
  match (do let data ← reply.value listOperation
            readPage data) with
  | .ok page => page.items.filterMap fun j => (readWorkspace listOperation j).toOption
  | .error _ => []

/-- The workspace was given to an accepted request for a new one of that name. -/
def Gave (name : String) (js : List (Event τ)) (x : Workspace) : Prop :=
  ∃ r reply, .sent r (.received reply) ∈ js ∧ r.wanted? = some name ∧ reply.isAccepted = true ∧ created reply = .ok x

def Listed (p : Provider) (js : List (Event τ)) (x : Workspace) : Prop :=
  ∃ r reply cursor, .sent r (.received reply) ∈ js ∧ (p.pageCall cursor).Carries r ∧ x ∈ listed reply

def Shown (p : Provider) (js : List (Event τ)) (x : Workspace) : Prop := (∃ name, Gave name js x) ∨ p.Listed js x

omit [Surroundings σ τ] in
theorem Listed.mono {js js' : List (Event τ)} {x : Workspace} (h : p.Listed js x) (hjs : js <:+ js') :
    p.Listed js' x := by
  obtain ⟨r, reply, cursor, hsent, hrest⟩ := h
  exact ⟨r, reply, cursor, hjs.subset hsent, hrest⟩

omit [Surroundings σ τ] in
theorem Gave.mono {js js' : List (Event τ)} {name : String} {x : Workspace} (h : Gave name js x) (hjs : js <:+ js') :
    Gave name js' x := by
  obtain ⟨r, reply, hsent, hrest⟩ := h
  exact ⟨r, reply, hjs.subset hsent, hrest⟩

/-! ## The list -/

def ItemListed (p : Provider) (js : List (Event τ)) (j : Json) : Prop :=
  ∀ x, readWorkspace listOperation j = .ok x → p.Listed js x

theorem page_listed {cursor : Option Json} {page : Page} (h : (p.page cursor : Act σ τ Page).on w = (.ok page, v)) :
    ∀ j ∈ page.items, p.ItemListed v.journal j := by
  intro j hj x hx
  unfold Provider.page fetch at h
  obtain ⟨data, u, hfetch, h⟩ := Act.on_bind_ok h
  obtain ⟨reply, z, hrequest, hvalue⟩ := Act.on_bind_ok hfetch
  have hdata : reply.value listOperation = .ok data := congrArg Prod.fst hvalue
  have hpage : readPage data = .ok page := congrArg Prod.fst h
  obtain rfl : z = u := congrArg Prod.snd hvalue
  obtain rfl : z = v := congrArg Prod.snd h
  obtain ⟨r, hcarries, hsent, -⟩ := request_ok hrequest
  refine ⟨r, reply, cursor, hsent, hcarries, ?_⟩
  have hread : (do let data ← reply.value listOperation
                   readPage data) = .ok page := by
    rw [hdata]
    exact hpage
  unfold listed
  rw [hread]
  exact List.mem_filterMap.mpr ⟨j, hj, by rw [hx]; rfl⟩

omit [Surroundings σ τ] in
theorem pure_listed {collected items : List Json} {u : World σ τ}
    (hcollected : ∀ j ∈ collected, p.ItemListed w.journal j) (hgrown : w.journal <:+ u.journal)
    (h : (pure collected : Act σ τ (List Json)).on u = (.ok items, v)) : ∀ j ∈ items, p.ItemListed v.journal j := by
  obtain rfl : collected = items := Except.ok.inj (congrArg Prod.fst h)
  obtain rfl : u = v := congrArg Prod.snd h
  intro j hj x hx
  exact (hcollected j hj x hx).mono hgrown

theorem itemsFrom_listed {collected items : List Json} {last : Page} {seen : List Json} {left : Nat}
    (hcollected : ∀ j ∈ collected, p.ItemListed w.journal j)
    (h : (p.itemsFrom collected last seen left : Act σ τ (List Json)).on w = (.ok items, v)) :
    ∀ j ∈ items, p.ItemListed v.journal j := by
  -- on the number of pages left; what was collected stays listed while the journal grows
  induction left generalizing collected last seen w with
  | zero =>
    unfold itemsFrom at h
    split_ifs at h
    · obtain ⟨short, u, hshort, h⟩ := Act.on_bind_ok h
      obtain rfl : w = u := congrArg Prod.snd hshort
      exact pure_listed hcollected (List.suffix_refl _) h
    · exact pure_listed hcollected (List.suffix_refl _) h
  | succ left ih =>
    unfold itemsFrom at h
    obtain ⟨cursor, u, hcursor, h⟩ := Act.on_bind_ok h
    obtain rfl : w = u := congrArg Prod.snd hcursor
    cases cursor with
    | none => exact pure_listed hcollected (List.suffix_refl _) h
    | some cursor =>
      obtain ⟨next, u, hnext, h⟩ := Act.on_bind_ok h
      have hadvance : Advance ⟨fun _ => True, fun _ => True⟩ w ((p.page (some cursor)).on w).2 :=
        p.within_page (fun _ _ => trivial) (some cursor) w
      rw [hnext] at hadvance
      split_ifs at h
      · exact pure_listed hcollected hadvance.suffix h
      · apply ih ?_ h
        intro j hj x hx
        rcases List.mem_append.mp hj with hj | hj
        · exact (hcollected j hj x hx).mono hadvance.suffix
        · exact page_listed hnext j hj x hx

omit [Surroundings σ τ] in
theorem mem_of_mapM {read : Json → Except Fault α} {items : List Json} {as : List α} (h : items.mapM read = .ok as) :
    ∀ a ∈ as, ∃ j ∈ items, read j = .ok a := by
  have hread := mapM_eq_ok_iff.mp h
  clear h
  induction hread with
  | nil => simp
  | cons hj _ ih =>
    rintro a (_ | ⟨_, ha⟩)
    · exact ⟨_, List.mem_cons_self, hj⟩
    · obtain ⟨j, hmem, hread⟩ := ih a ha
      exact ⟨j, List.mem_cons_of_mem _ hmem, hread⟩

theorem workspaces_listed {ws : List Workspace} (h : (p.workspaces : Act σ τ (List Workspace)).on w = (.ok ws, v)) :
    ∀ x ∈ ws, p.Listed v.journal x := by
  unfold workspaces at h
  obtain ⟨first, u, hfirst, h⟩ := Act.on_bind_ok h
  obtain ⟨items, z, hitems, h⟩ := Act.on_bind_ok h
  obtain rfl : z = v := congrArg Prod.snd h
  intro x hx
  obtain ⟨j, hj, hread⟩ := mem_of_mapM (congrArg Prod.fst h) x hx
  exact itemsFrom_listed (page_listed hfirst) hitems j hj x hread

/-! ## Making and finding a workspace -/

omit [Surroundings σ τ] in
theorem named_some {ws : List Workspace} {name : String} {x : Workspace} (h : named? ws name = some x) :
    x ∈ ws ∧ Text.lower x.name = Text.lower name := by
  unfold named? at h
  rcases Option.or_eq_some_iff.mp h with hexact | ⟨-, hlower⟩
  · have hname : x.name = name := by simpa using List.find?_some hexact
    exact ⟨List.mem_of_find?_eq_some hexact, congrArg Text.lower hname⟩
  · exact ⟨List.mem_of_find?_eq_some hlower, by simpa using List.find?_some hlower⟩

omit [Surroundings σ τ] in
theorem gave_of_answered {path name templateId : String} {u : World σ τ} {x : Workspace}
    (hanswered : (p.createCall path name templateId).Answered reply u)
    (h : (do
      let data ← Act.ofExcept (reply.value createOperation)
      Act.ofExcept (readWorkspace createOperation data) : Act σ τ Workspace).on u = (.ok x, v)) :
    Gave name v.journal x := by
  obtain ⟨r, hcarries, hsent, haccepted⟩ := hanswered
  obtain ⟨data, z, hvalue, h⟩ := Act.on_bind_ok h
  have hdata : reply.value createOperation = .ok data := congrArg Prod.fst hvalue
  have hworkspace : readWorkspace createOperation data = .ok x := congrArg Prod.fst h
  obtain rfl : u = z := congrArg Prod.snd hvalue
  obtain rfl : u = v := congrArg Prod.snd h
  refine ⟨r, reply, hsent, wanted_create hcarries, haccepted, ?_⟩
  unfold created
  rw [hdata]
  exact hworkspace

theorem create_gave {name templateId : String} {x : Workspace}
    (h : (p.create name templateId : Act σ τ Workspace).on w = (.ok x, v)) : Gave name v.journal x := by
  unfold create at h
  obtain ⟨outcome, u, hfirst, h⟩ := Act.on_bind_ok h
  cases outcome with
  | ok reply =>
    obtain ⟨reply', z, hreply, h⟩ := Act.on_bind_ok h
    obtain rfl : reply = reply' := Except.ok.inj (congrArg Prod.fst hreply)
    obtain rfl : u = z := congrArg Prod.snd hreply
    have hanswered : (p.createCall createPath name templateId).Answered reply u := request_ok (Act.of_attempt hfirst)
    exact gave_of_answered hanswered h
  | error e =>
    dsimp only at h
    split_ifs at h
    · obtain ⟨reply, z, hsecond, h⟩ := Act.on_bind_ok h
      have hanswered : (p.createCall createFallbackPath name templateId).Answered reply z := request_ok hsecond
      exact gave_of_answered hanswered h
    · obtain ⟨reply, z, hthrown, -⟩ := Act.on_bind_ok h
      cases congrArg Prod.fst hthrown

/-- A workspace that is made or found was given under the name, or listed with it in letters of any case. -/
theorem createOrGet_shown {name templateId : String} {x : Workspace}
    (h : (p.createOrGet name templateId : Act σ τ Workspace).on w = (.ok x, v)) :
    Gave name v.journal x ∨ (p.Listed v.journal x ∧ Text.lower x.name = Text.lower name) := by
  unfold createOrGet at h
  obtain ⟨outcome, u, hfirst, h⟩ := Act.on_bind_ok h
  cases outcome with
  | ok made =>
    obtain rfl : made = x := Except.ok.inj (congrArg Prod.fst h)
    obtain rfl : u = v := congrArg Prod.snd h
    exact Or.inl (create_gave (Act.of_attempt hfirst))
  | error e =>
    dsimp only at h
    split at h
    · obtain ⟨found, z, hfind, h⟩ := Act.on_bind_ok h
      cases found with
      | none => cases congrArg Prod.fst h
      | some y =>
        obtain rfl : y = x := Except.ok.inj (congrArg Prod.fst h)
        obtain rfl : z = v := congrArg Prod.snd h
        unfold find at hfind
        obtain ⟨ws, z', hlist, hfind⟩ := Act.on_bind_ok hfind
        obtain rfl : z' = z := congrArg Prod.snd hfind
        obtain ⟨hmem, hname⟩ := named_some (Except.ok.inj (congrArg Prod.fst hfind))
        exact Or.inr ⟨workspaces_listed hlist y hmem, hname⟩
    · cases congrArg Prod.fst h

/-! ## Lawful providers -/

/-- In the journal the provider gives an accepted request the name it asks for, and shows a workspace under one
name. -/
structure Lawful (p : Provider) (js : List (Event τ)) : Prop where
  named : ∀ name x, Gave name js x → x.name = name
  settled : ∀ x y, p.Shown js x → p.Shown js y → x.id = y.id → x.name = y.name

/-- In the journal a name, in letters of any case, belongs to one workspace. -/
def OneOfName (p : Provider) (js : List (Event τ)) : Prop :=
  ∀ x y, p.Shown js x → p.Shown js y → Text.lower x.name = Text.lower y.name → x.id = y.id

end Provider

/-- A lawful provider shows the workspace that a creation returns, under the name that the creation asked for. -/
theorem Creation.createFor_shown [Timeline τ] {c : Creation τ} {s : Session} {w v : World σ τ} {x : Workspace}
    {js : List (Event τ)} (h : (c.createFor s).on w = (.ok (some x), v)) (hjs : v.journal <:+ js)
    (hlawful : c.provider.Lawful js) :
    c.provider.Shown js x ∧ Text.lower x.name = c.nameFor s w := by
  obtain ⟨t, y, hmade, hkept⟩ := createFor_some h
  obtain ⟨u, z, hcall, hgrown⟩ := make_some hmade
  have hkeeping : Advance ⟨fun _ => True, fun _ => True⟩ y ((c.keepRecord s x t).on y).2 := by
    unfold keepRecord
    split_ifs
    · refine within_tolerating ?_ y
      exact Act.within_bind (c.registry.within_createRecordRetrying _ trivial fun _ _ => trivial)
        fun _ => Act.within_pure _ _
    · exact .refl _ y
  rw [hkept] at hkeeping
  have hall : z.journal <:+ js := (hgrown.trans hkeeping.suffix).trans hjs
  -- a name that is asked for is in lower case, so a lookup in any case finds no other
  have hlower : Text.lower (c.nameFor s w) = c.nameFor s w := WorkspaceName.lower_generate _ _ _
  rcases Provider.createOrGet_shown hcall with hgave | ⟨hlisted, hname⟩
  · have hname := hlawful.named _ x (hgave.mono hall)
    exact ⟨Or.inl ⟨_, hgave.mono hall⟩, by rw [hname, hlower]⟩
  · exact ⟨Or.inr (hlisted.mono hall), hname.trans hlower⟩

end SessionKeeper

import SessionKeeper.Proofs.Pass.Justified
import SessionKeeper.Proofs.Pass.Run
import SessionKeeper.Proofs.Workspace.Name

/-!
# What a check asks for

A check asks for a new workspace only if no listed workspace counts for its session, and then only for names
that are made for it.

* `Yields` : what an outcome gives, if it gives anything.
* `Event.wanted?`, `Event.accepted?` : requests for new workspaces in the journal.
* `Check.news`, `Check.AsksNothing`, `Check.Accepted` : what a check adds to the journal.
* `Keeper.owned_settled`, `Keeper.owned_confirmed`, … : how the workspaces of a session are found.
* `Check.answered`, `Check.onlySent_unread`, `Check.onlySent_of_answers` : what a check does and sends, by what it
  reads.
* `Check.asksNothing` : a check of a session with a workspace asks for none.
* `Check.wanted_name` : the names that a check asks for.
-/

namespace SessionKeeper

variable {σ τ : Type}

/-- What the outcome gives, if it gives anything, satisfies `p`. -/
def Yields {α : Type} (r : Except Fault α) (p : α → Prop) : Prop := ∀ a, r = .ok a → p a

instance {α : Type} (r : Except Fault α) (p : α → Prop) [DecidablePred p] : Decidable (Yields r p) :=
  match r with
  | .error _ => isTrue fun _ h => nomatch h
  | .ok a => decidable_of_iff (p a) ⟨fun ha _ h => Except.ok.inj h ▸ ha, fun h => h a rfl⟩

/-! ## Requests for new workspaces -/

def Event.wanted? : Event τ → Option String
  | .sent r _ => r.wanted?
  | _ => none

def Event.accepted? : Event τ → Option String
  | .sent r x => if x.isAccepted then r.wanted? else none
  | _ => none

theorem Event.wanted_of_accepted {e : Event τ} {name : String} (h : e.accepted? = some name) :
    e.wanted? = some name := by
  cases e with
  | sent r x =>
    have hif : (if x.isAccepted then r.wanted? else none) = some name := h
    split_ifs at hif
    exact hif
  | slept seconds => cases h
  | asked key rejected => cases h
  | succeeded key => cases h
  | failed key time => cases h
  | pruned time => cases h

/-- The request asks for no name but one that is made for the session. -/
def Request.NamedFor (s : Session) (r : Request) : Prop :=
  ∀ name, r.wanted? = some name → ∃ time, name = WorkspaceName.generate s.id s.name time

theorem Request.namedFor_of_wanted {s : Session} {r : Request} (h : r.wanted? = none) : r.NamedFor s := by
  intro name hname
  rw [h] at hname
  cases hname

theorem OnlySent.mono {p q : Request → Prop} {w v : World σ τ} (h : OnlySent p w v) (hpq : ∀ r, p r → q r) :
    OnlySent q w v := by
  obtain ⟨news, hnews, hsent⟩ := h
  exact ⟨news, hnews, fun r x hr => hpq r (hsent r x hr)⟩

namespace Check

variable [Timeline τ] [Surroundings σ τ]

def news (k : Keeper τ) (t : Check σ τ) : List (Event τ) :=
  (t.after k).journal.take ((t.after k).journal.length - t.before.journal.length)

def AsksNothing (k : Keeper τ) (t : Check σ τ) : Prop := ∀ e ∈ t.news k, e.wanted? = none

/-- A workspace of that name was asked for in the check, and the provider accepted that. -/
def Accepted (k : Keeper τ) (name : String) (t : Check σ τ) : Prop := ∃ e ∈ t.news k, e.accepted? = some name

instance (k : Keeper τ) (t : Check σ τ) : Decidable (t.AsksNothing k) :=
  inferInstanceAs (Decidable (∀ e ∈ t.news k, e.wanted? = none))

instance (k : Keeper τ) (name : String) (t : Check σ τ) : Decidable (t.Accepted k name) :=
  inferInstanceAs (Decidable (∃ e ∈ t.news k, e.accepted? = some name))

theorem news_eq {k : Keeper τ} {t : Check σ τ} {news : List (Event τ)}
    (h : (t.after k).journal = news ++ t.before.journal) : t.news k = news := by
  -- the journal only grew, so its news are what stands before the old one
  unfold Check.news
  rw [h, List.length_append, Nat.add_sub_cancel, List.take_left]

theorem onlySent_news {p : Request → Prop} {k : Keeper τ} {t : Check σ τ} (h : OnlySent p t.before (t.after k)) :
    (t.after k).journal = t.news k ++ t.before.journal ∧ ∀ r x, .sent r x ∈ t.news k → p r := by
  obtain ⟨news, hnews, hsent⟩ := h
  rw [news_eq hnews]
  exact ⟨hnews, hsent⟩

theorem asksNothing_of_onlySent {k : Keeper τ} {t : Check σ τ}
    (h : OnlySent (fun r => r.wanted? = none) t.before (t.after k)) : t.AsksNothing k := by
  intro e he
  cases e with
  | sent r x => exact (onlySent_news h).2 r x he
  | slept seconds => rfl
  | asked key rejected => rfl
  | succeeded key => rfl
  | failed key time => rfl
  | pruned time => rfl

end Check

/-! ## Changes that ask for nothing -/

theorem Pass.Answers.no_create {p : Pass} {ws : List Workspace} {ds : List Change} {outcome : Except Fault Unit}
    (h : p.Answers ws ds outcome) (hws : ws ≠ []) (created : Except Fault (Option Workspace)) :
    .create created ∉ ds := by
  intro hmem
  cases p with
  | new =>
    obtain ⟨updated, rfl, -⟩ := h.1 hws
    simp at hmem
  | inactive =>
    obtain ⟨hawake, hasleep⟩ := h
    by_cases hrunning : ∃ w ∈ ws, w.IsRunning
    · obtain ⟨updated, rfl, -⟩ := hawake hrunning
      simp at hmem
    · push Not at hrunning
      obtain ⟨rfl, -⟩ := hasleep hrunning
      cases hmem
  | active =>
    obtain ⟨-, hstopped, hmixed, hother⟩ := h
    by_cases hsome : ∃ w ∈ ws, w.IsStopped
    · by_cases hrunning : ∃ w ∈ ws, w.IsRunning
      · obtain ⟨started, rfl, -⟩ := hmixed hrunning hsome
        rw [← List.map_uncurry_zip_eq_zipWith] at hmem
        obtain ⟨x, -, hx⟩ := List.mem_map.mp hmem
        cases hx
      · push Not at hrunning
        obtain ⟨updated, rfl, -⟩ := hstopped hrunning hsome
        simp at hmem
    · push Not at hsome
      obtain ⟨rfl, -⟩ := hother hws hsome
      cases hmem

theorem Change.Sends.wanted {k : Keeper τ} {s : Session} {d : Change} {r : Request} (h : d.Sends k s r)
    (hd : ∀ created, d ≠ .create created) : r.wanted? = none := by
  cases d with
  | create created => exact absurd rfl (hd created)
  | update status updated => exact Registry.wanted_update h
  | start id started =>
    rcases h with hquiet | hstart
    · exact hquiet.wanted
    · exact Provider.wanted_transition hstart

namespace Keeper

variable [Surroundings σ τ] {k : Keeper τ} {s : Session} {w u v z : World σ τ}
  {all ws : List Workspace} {rs : List WorkspaceRecord}

/-! ## Finding the workspaces of a session -/

def candidates (s : Session) (all : List Workspace) : List Workspace :=
  all.filter fun w => belongs s.id w.name w.templateName

/-- Whether a candidate counts for the session, once the records of the session are known. -/
def counts (s : Session) (all : List Workspace) (rs : List WorkspaceRecord) (x : Workspace) : Bool :=
  sharesExplicitId s (candidates s all) x || isRecorded rs x

/-- Whether all candidates count without a look at the records. -/
def isSettled (k : Keeper τ) (s : Session) (all : List Workspace) : Bool :=
  !k.confirms || allExplicit s (candidates s all)

theorem workspacesOf_on (hlist : k.provider.workspaces.on w = (.ok all, v)) :
    (k.provider.workspacesOf s.id).on w = (.ok (candidates s all), v) := by
  unfold Provider.workspacesOf
  rw [Act.on_bind, hlist]
  rfl

theorem owned_unlisted {e : Fault} (hlist : k.provider.workspaces.on w = (.error e, v)) :
    (k.owned s).on w = (.error e, v) := by
  unfold owned Provider.workspacesOf
  rw [Act.on_bind, Act.on_bind, hlist]
  rfl

theorem owned_settled (hlist : k.provider.workspaces.on w = (.ok all, v)) (hsettled : k.isSettled s all = true) :
    (k.owned s).on w = (.ok (candidates s all), v) := by
  unfold isSettled at hsettled
  unfold owned
  rw [Act.on_bind, workspacesOf_on hlist, Act.next_ok, if_pos hsettled]
  rfl

theorem owned_unconfirmed {e : Fault} (hlist : k.provider.workspaces.on w = (.ok all, v))
    (hsettled : k.isSettled s all = false) (hrecords : (k.registry.records s.id).on v = (.error e, z)) :
    (k.owned s).on w = (.error e, z) := by
  unfold isSettled at hsettled
  unfold owned
  rw [Act.on_bind, workspacesOf_on hlist, Act.next_ok, if_neg (by rw [hsettled]; exact Bool.false_ne_true),
    Act.on_bind, hrecords]
  rfl

theorem owned_confirmed (hlist : k.provider.workspaces.on w = (.ok all, v)) (hsettled : k.isSettled s all = false)
    (hrecords : (k.registry.records s.id).on v = (.ok rs, z)) :
    (k.owned s).on w = (.ok ((candidates s all).filter (counts s all rs)), z) := by
  unfold isSettled at hsettled
  unfold owned
  rw [Act.on_bind, workspacesOf_on hlist, Act.next_ok, if_neg (by rw [hsettled]; exact Bool.false_ne_true),
    Act.on_bind, hrecords]
  rfl

/-- A session has a workspace if a candidate is listed that counts whatever way the records are asked. -/
theorem owned_ne_nil (hread : (k.owned s).on w = (.ok ws, z)) {all : List Workspace} {v : World σ τ}
    (hlist : k.provider.workspaces.on w = (.ok all, v)) {x : Workspace} (hx : x ∈ candidates s all)
    (hcounts : ∀ rs u, k.isSettled s all = false → (k.registry.records s.id).on v = (.ok rs, u) →
      counts s all rs x = true) : ws ≠ [] := by
  cases hsettled : k.isSettled s all with
  | true =>
    rw [owned_settled hlist hsettled] at hread
    obtain rfl : candidates s all = ws := Except.ok.inj (congrArg Prod.fst hread)
    exact List.ne_nil_of_mem hx
  | false =>
    rcases hrecords : (k.registry.records s.id).on v with ⟨e | rs, u⟩
    · rw [owned_unconfirmed hlist hsettled hrecords] at hread
      cases congrArg Prod.fst hread
    · rw [owned_confirmed hlist hsettled hrecords] at hread
      obtain rfl : (candidates s all).filter (counts s all rs) = ws := Except.ok.inj (congrArg Prod.fst hread)
      exact List.ne_nil_of_mem (List.mem_filter.mpr ⟨hx, hcounts rs u hsettled hrecords⟩)

end Keeper

/-! ## What a check asks for -/

namespace Check

variable [Timeline τ] [Surroundings σ τ] {k : Keeper τ}

theorem answered {t : Check σ τ} {ws : List Workspace} {v : World σ τ} (hpassed : t.isRejected k = false)
    (hread : (k.owned t.session).on (t.world k) = (.ok ws, v)) :
    ∃ ds outcome z, t.report.pass.Answers ws ds outcome ∧ Changes k t.session ds v z ∧
      t.after k = ((k.guard.record t.session.circuitKey outcome).on z).2 ∧
      OnlySent (fun r => r.IsQuiet k.provider.keyring ∨ ∃ d ∈ ds, d.Sends k t.session r) t.before (t.after k) := by
  unfold isRejected at hpassed
  unfold Check.world at hread
  rcases hask : (k.guard.isOpen t.session.circuitKey).on t.before with ⟨rejected, u⟩
  rw [hask] at hpassed hread
  obtain rfl : rejected = false := hpassed
  exact Keeper.step_read hask hread t.report

theorem onlySent_unread {t : Check σ τ} {e : Fault} {v : World σ τ}
    (hread : (k.owned t.session).on (t.world k) = (.error e, v)) :
    OnlySent (Request.IsQuiet k.provider.keyring) t.before (t.after k) := by
  unfold Check.world at hread
  rcases hask : (k.guard.isOpen t.session.circuitKey).on t.before with ⟨rejected, u⟩
  rw [hask] at hread
  cases rejected with
  | true => exact (Keeper.onlySent_rejected hask t.report).mono fun _ => False.elim
  | false => exact Keeper.step_unread hask hread t.report

theorem onlySent_of_answers {p : Request → Prop} {t : Check σ τ} (hquiet : ∀ r, r.IsQuiet k.provider.keyring → p r)
    (hanswers : ∀ ws v, (k.owned t.session).on (t.world k) = (.ok ws, v) → ∀ ds outcome,
      t.report.pass.Answers ws ds outcome → ∀ d ∈ ds, ∀ r, d.Sends k t.session r → p r) :
    OnlySent p t.before (t.after k) := by
  cases hrejected : t.isRejected k with
  | true =>
    have hasked : (k.guard.isOpen t.session.circuitKey).on t.before = (true, t.world k) := Prod.ext hrejected rfl
    exact (Keeper.onlySent_rejected hasked t.report).mono fun _ => False.elim
  | false =>
    rcases hread : (k.owned t.session).on (t.world k) with ⟨e | ws, v⟩
    · exact (onlySent_unread hread).mono hquiet
    · obtain ⟨ds, outcome, z, hanswer, -, -, hsent⟩ := answered hrejected hread
      refine hsent.mono fun r hr => ?_
      rcases hr with hr | ⟨d, hd, hsends⟩
      · exact hquiet r hr
      · exact hanswers ws v hread ds outcome hanswer d hd r hsends

/-- A check asks for nothing if its session has a workspace, or its workspaces cannot be read. -/
theorem asksNothing {t : Check σ τ}
    (howned : ∀ ws v, (k.owned t.session).on (t.world k) = (.ok ws, v) → ws ≠ []) : t.AsksNothing k := by
  apply asksNothing_of_onlySent
  refine onlySent_of_answers (fun r hquiet => hquiet.wanted) fun ws v hread ds outcome hanswer d hd r hsends => ?_
  -- only a creation asks for a workspace, and no pass answers a session that has one with a creation
  refine hsends.wanted fun created hcreate => ?_
  exact hanswer.no_create (howned ws v hread) created (hcreate ▸ hd)

theorem changes_namedFor {s : Session} {ds : List Change} {w v : World σ τ} (h : Changes k s ds w v) :
    Advance ⟨Request.NamedFor s, fun _ => True⟩ w v := by
  induction ds generalizing w with
  | nil =>
    obtain rfl : v = w := h
    exact .refl _ _
  | cons d ds ih =>
    obtain ⟨u, hd, hrest⟩ := h
    refine Advance.trans ?_ (ih hrest)
    cases d with
    | create created =>
      obtain rfl : ((k.creation.createFor s).on w).2 = u := congrArg Prod.snd hd
      exact k.creation.within_createFor (fun r hr name => hr.name) trivial trivial w
    | update status updated =>
      refine hd.advance.mono (fun r hr => ?_) fun _ _ => trivial
      have hsends : (Change.update status updated).Sends k s r := hr
      exact Request.namedFor_of_wanted (hsends.wanted fun created h => nomatch h)
    | start id started =>
      refine hd.advance.mono (fun r hr => ?_) fun _ _ => trivial
      have hsends : (Change.start id started).Sends k s r := hr
      exact Request.namedFor_of_wanted (hsends.wanted fun created h => nomatch h)

theorem wanted_name (k : Keeper τ) (t : Check σ τ) {e : Event τ} (he : e ∈ t.news k) {name : String}
    (hname : e.wanted? = some name) :
    ∃ time, name = WorkspaceName.generate t.session.id t.session.name time := by
  have honly : OnlySent (Request.NamedFor t.session) t.before (t.after k) := by
    have hquiet (r : Request) (hr : r.IsQuiet k.provider.keyring) : r.NamedFor t.session :=
      Request.namedFor_of_wanted hr.wanted
    rcases hask : (k.guard.isOpen t.session.circuitKey).on t.before with ⟨rejected, u⟩
    cases rejected with
    | true => exact (Keeper.onlySent_rejected hask t.report).mono fun _ => False.elim
    | false =>
      unfold Check.after
      rcases hread : (k.owned t.session).on u with ⟨e | ws, v⟩
      · rw [Keeper.step_passed hask (Keeper.handle_unread hread t.report.pass t.report.counts)]
        have hnothing : Advance ⟨Request.NamedFor t.session, fun _ => True⟩ v v := .refl _ v
        exact (Keeper.advance_passed hquiet (fun _ => trivial) hask hread hnothing _).onlySent
      · obtain ⟨ds, outcome, z, -, hchanges, hrun⟩ := Keeper.handle_read hread t.report.pass t.report.counts
        rw [Keeper.step_passed hask hrun]
        exact (Keeper.advance_passed hquiet (fun _ => trivial) hask hread (changes_namedFor hchanges) _).onlySent
  cases e with
  | sent r x => exact (onlySent_news honly).2 r x he name hname
  | slept seconds => cases hname
  | asked key rejected => cases hname
  | succeeded key => cases hname
  | failed key time => cases hname
  | pruned time => cases hname

end Check

end SessionKeeper

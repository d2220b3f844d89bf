import SessionKeeper.Proofs.Registry.Update
import SessionKeeper.Proofs.Url.Route

/-!
# Requests for one entity

An update of a session, and a start, a stop or a deletion of a workspace, name the entity by an id in the address.

* `Aim`, `Aim.act`, `Aim.call` : such an operation, its run, and its call.
* `Aim.route`, `Aim.address_eq` : where the id stands in the address.
* `Aim.parse_of_carries`, `Aim.exists_carries` : where a request is sent, and when there is one.
* `Aim.act_sends` : what a run sends.
* `Aim.Addressed`, `Aim.addressed` : a request goes to the entity exactly if the id is plain, and then to no other.
-/

namespace SessionKeeper

open Url

variable {σ τ : Type}

/-- An operation on one session or on one workspace. -/
inductive Aim where
  | update (status : SessionStatus)
  | start
  | stop
  | delete

namespace Aim

/-! ## Calls -/

def root (r : Registry τ) (p : Provider) : Aim → String
  | update _ => r.root
  | start | stop | delete => p.root

def call (r : Registry τ) (p : Provider) (id : String) : Aim → Call
  | update status => r.updateCall id status
  | start => p.transitionCall id "start"
  | stop => p.transitionCall id "stop"
  | delete => p.callTo "DELETE" ("/workspaces/" ++ id) "delete_workspace" none

def route : Aim → Route
  | update _ => ⟨["sessions".toList], ["status".toList], by decide⟩
  | start | stop => ⟨["workspaces".toList], ["builds".toList], by decide⟩
  | delete => ⟨["workspaces".toList], [], by decide⟩

variable (r : Registry τ) (p : Provider) (id : String) (a : Aim)

theorem address_eq : (a.call r p id).address.toList = (a.root r p).toList ++ a.route.path id.toList := by
  cases a <;>
    simp [call, root, route, Registry.updateCall, Provider.transitionCall, Provider.callTo, Route.path]

theorem params_eq : (a.call r p id).params = none := by
  cases a <;> rfl

theorem isWritable_body : (a.call r p id).body.all Json.isWritable = true := by
  cases a with
  | update status => cases status <;> rfl
  | start => rfl
  | stop => rfl
  | delete => rfl

def address : List Char := (a.root r p).toList ++ a.route.path id.toList

/-! ## Where the request is sent -/

section

variable {u v : Url} {r : Registry τ} {p : Provider} {id : String} {a : Aim} {q : Request}

theorem destination_eq_ok (hroot : IsRoot (a.root r p).toList u) :
    (a.call r p id).destination = .ok v ↔ Url.parse (a.address r p id) = .ok v := by
  unfold Call.destination
  rw [params_eq, address_eq, ← address]
  cases hparse : Url.parse (a.address r p id) with
  | error e => simp [bind, Except.bind]
  | ok url =>
    obtain ⟨hscheme, -, hhost, -⟩ := a.route.parse_origin id.toList hroot hparse
    have habsolute := hroot.absolute
    unfold isAbsolute at habsolute
    rw [← hscheme, ← hhost] at habsolute
    have hresolved : url.resolved = .ok url := if_pos habsolute
    simp [bind, Except.bind, hresolved]

theorem parse_of_carries (hroot : IsRoot (a.root r p).toList u) (h : (a.call r p id).Carries q) :
    Url.parse (a.address r p id) = .ok q.url := by
  obtain ⟨accept, token, hrequest⟩ := h
  obtain ⟨url, hurl, -, rfl⟩ := Call.request_eq_ok.mp hrequest
  exact (destination_eq_ok hroot).mp hurl

/-- There is a request exactly if the address is short, free of control characters and can be written. -/
theorem exists_carries (hroot : IsRoot (a.root r p).toList u) :
    (∃ q, (a.call r p id).Carries q) ↔ Fits (a.address r p id) ∧ isWritable (a.call r p id).address = true := by
  rw [address, ← a.route.exists_parse id.toList hroot]
  constructor
  · rintro ⟨q, accept, token, hrequest⟩
    obtain ⟨url, hurl, hwritten, -⟩ := Call.request_eq_ok.mp hrequest
    simp only [Call.isWritten, Bool.and_eq_true] at hwritten
    exact ⟨⟨url, (destination_eq_ok hroot).mp hurl⟩, hwritten.1.1.1⟩
  · rintro ⟨⟨v, hv⟩, hwritable⟩
    refine ⟨_, "", none, Call.request_eq_ok.mpr ⟨v, (destination_eq_ok hroot).mpr hv, ?_, rfl⟩⟩
    simp [Call.isWritten, hwritable, params_eq, isWritable_body]

end

/-! ## What a run sends -/

variable [Surroundings σ τ] [Timeline τ]

def act (r : Registry τ) (p : Provider) (id : String) : Aim → Act σ τ Unit
  | update status => do
    let _ ← r.updateStatusRetrying id status
  | start => p.start id
  | stop => p.stop id
  | delete => do
    let _ ← p.delete id

/-- The request renews the token that the operation needs; an update needs none. -/
def Renews (p : Provider) (q : Request) : Aim → Prop
  | update _ => False
  | start | stop | delete => ∃ token, (p.keyring.call token).request = .ok q

/-- Something other than the address keeps the request back: the circuit of the updates, or a token that cannot be
written. -/
def IsHeld (id : String) (w : World σ τ) (news : List (Event τ)) : Aim → Prop
  | update _ => news = [.asked (Registry.updateKey id) true]
  | start | stop | delete => w.credential.shown?.all isPlainText = false

omit [Timeline τ] in
theorem request_sends (c : Call) (w : World σ τ) :
    ∃ news : List (Event τ), ((p.request c).on w).2.journal = news ++ w.journal ∧
      (∀ q x, .sent q x ∈ news → c.Carries q ∨ ∃ token, (p.keyring.call token).request = .ok q) ∧
      ((∃ q, c.Carries q) →
        (∃ q x, .sent q x ∈ news ∧ c.Carries q) ∨ w.credential.shown?.all isPlainText = false) := by
  obtain ⟨ms, htalk⟩ := p.request_talk c w
  refine ⟨_, htalk.journal, fun q x hsent => ?_, ?_⟩
  · obtain ⟨m, hm, hevent⟩ : ∃ m ∈ ms, m.event = .sent q x := by simpa [Provider.Message.events] using hsent
    rcases htalk.messages m hm with ⟨q', x', rfl, hcarries⟩ | ⟨token, q', x', rfl, hrenewal⟩
    · obtain ⟨rfl, -⟩ := Event.sent.inj hevent
      exact Or.inl hcarries
    · obtain ⟨rfl, -⟩ := Event.sent.inj hevent
      exact Or.inr ⟨token, hrenewal⟩
  · rintro ⟨q, hq⟩
    cases htoken : w.credential.shown?.all isPlainText with
    | false => exact Or.inr rfl
    | true =>
      obtain ⟨q', hq'⟩ := hq.bearing htoken
      obtain ⟨x, hx⟩ := htalk.first hq'
      exact Or.inl ⟨q', x, Provider.Message.mem_events hx, Call.carries_of_bearing hq'⟩

theorem update_sends (status : SessionStatus) (w : World σ τ) :
    ∃ news : List (Event τ), ((r.updateStatusRetrying id status).on w).2.journal = news ++ w.journal ∧
      (∀ q x, .sent q x ∈ news → (r.updateCall id status).Carries q) ∧
      ((∃ q, (r.updateCall id status).Carries q) →
        (∃ q x, .sent q x ∈ news ∧ (r.updateCall id status).Carries q) ∨
          news = [.asked (Registry.updateKey id) true]) := by
  have hrequest : r.updateRequest id (.text status.text) = (r.updateCall id status).request := by
    show ((SessionStatus.ofText? status.text).elim _ Except.ok >>= _) = _
    rw [SessionStatus.ofText_text]
    rfl
  rw [← r.updateNamedRetrying_text id status]
  cases hcall : (r.updateCall id status).request with
  | error e =>
    rw [hcall] at hrequest
    obtain ⟨he, hunmade⟩ := r.updateNamed_unmade (σ := σ) id hrequest
    obtain ⟨news, hjournal, hquiet⟩ :=
      r.guard.retry_unmade (Registry.updateKey id) hunmade he (show 1 ≤ Registry.updateAttempts by decide) w
    refine ⟨news.reverse, hjournal, fun q x hsent => ?_, ?_⟩
    · cases hquiet _ (List.mem_reverse.mp hsent)
    · rintro ⟨q, hq⟩
      obtain ⟨q', hq'⟩ := hq.exists_request rfl
      rw [hcall] at hq'
      cases hq'
  | ok q =>
    rw [hcall] at hrequest
    obtain ⟨news, hjournal, hsendings, -⟩ := r.guard.retry_sendings (Registry.updateKey id)
      (r.updateNamed_sends (σ := σ) id hrequest) (show 1 ≤ Registry.updateAttempts by decide) w
    refine ⟨news.reverse, hjournal, fun q' x hsent => ?_, fun _ => ?_⟩
    · obtain ⟨before, after, hnews⟩ := List.append_of_mem (List.mem_reverse.mp hsent)
      obtain rfl := (hsendings.at_of_split hnews).same
      exact Call.carries_of_request hcall
    · rcases hsendings.first with rfl | ⟨x, rest, rfl⟩
      · exact Or.inr rfl
      · exact Or.inl ⟨q, x, by simp, Call.carries_of_request hcall⟩

omit [Surroundings σ τ] [Timeline τ] in
theorem world_unused {α : Type} (act : Act σ τ α) (w : World σ τ) :
    ((do let _ ← act : Act σ τ Unit).on w).2 = (act.on w).2 := by
  rw [Act.on_bind]
  rcases act.on w with ⟨e | x, v⟩ <;> rfl

omit [Timeline τ] in
theorem world_delete (w : World σ τ) : ((p.delete id).on w).2 =
    ((p.request (p.callTo "DELETE" ("/workspaces/" ++ id) "delete_workspace" none) : Act σ τ Reply).on w).2 := by
  unfold Provider.delete
  rw [Act.on_bind, Act.on_attempt, Act.next_ok]
  rcases (p.request _ : Act σ τ Reply).on w with ⟨e | reply, v⟩
  · dsimp only
    split <;> rfl
  · rfl

theorem act_sends (w : World σ τ) :
    ∃ news : List (Event τ), ((a.act r p id).on w).2.journal = news ++ w.journal ∧
      (∀ q x, .sent q x ∈ news → (a.call r p id).Carries q ∨ a.Renews p q) ∧
      ((∃ q, (a.call r p id).Carries q) →
        (∃ q x, .sent q x ∈ news ∧ (a.call r p id).Carries q) ∨ a.IsHeld id w news) := by
  cases a with
  | update status =>
    obtain ⟨news, hjournal, hsent, hsends⟩ := update_sends r id status w
    refine ⟨news, ?_, fun q x hq => Or.inl (hsent q x hq), hsends⟩
    rw [← hjournal]
    exact congrArg World.journal (world_unused _ w)
  | start | stop =>
    obtain ⟨news, hjournal, hnews⟩ := request_sends p (p.transitionCall id _) w
    refine ⟨news, ?_, hnews⟩
    rw [← hjournal]
    exact congrArg World.journal (world_unused _ w)
  | delete =>
    obtain ⟨news, hjournal, hnews⟩ :=
      request_sends p (p.callTo "DELETE" ("/workspaces/" ++ id) "delete_workspace" none) w
    refine ⟨news, ?_, hnews⟩
    rw [← hjournal, ← world_delete]
    exact congrArg World.journal (world_unused _ w)

/-! ## Which entity -/

omit [Surroundings σ τ] [Timeline τ] in
theorem root_of_route {a a' : Aim} (h : a'.route = a.route) : a'.root r p = a.root r p := by
  cases a <;> cases a' <;> first | rfl | cases h

/-- What holds of a request for an entity: it carries the call, goes to the service, and its path is that of the route
with one segment that reads as the id exactly if the id is plain; no other plain id on the route has its target. -/
structure Addressed (r : Registry τ) (p : Provider) (u : Url) (id : String) (a : Aim) (q : Request) : Prop where
  carries : (a.call r p id).Carries q
  origin : q.url.scheme = u.scheme ∧ q.url.user = u.user ∧ q.url.host = u.host ∧ q.url.port = u.port
  leads : a.route.Leads id.toList u q.url ↔ IsPlain id.toList
  apart : IsPlain id.toList → ∀ (a' : Aim) id' q', a'.route = a.route → IsPlain id'.toList →
    (a'.call r p id').Carries q' → q'.url.target = q.url.target → id' = id

omit [Surroundings σ τ] [Timeline τ] in
theorem addressed_of_carries {u : Url} (hroot : IsRoot (a.root r p).toList u) {q : Request}
    (h : (a.call r p id).Carries q) : a.Addressed r p u id q := by
  have hparse := parse_of_carries hroot h
  refine ⟨h, a.route.parse_origin _ hroot hparse, a.route.leads_iff _ hroot hparse, ?_⟩
  intro hid a' id' q' hroute hid' h' htarget
  have hsame := root_of_route r p hroute
  have hparse' : Url.parse ((a.root r p).toList ++ a.route.path id'.toList) = .ok q'.url := by
    rw [← hroute, ← hsame]
    exact parse_of_carries (hsame ▸ hroot) h'
  exact String.toList_injective (a.route.target_injective hroot hid' hid hparse' hparse htarget)

/-- Each of the operations sends only its own call and, to the provider, renewals of the token. Its call is sent if the
address is short, free of control characters and can be written, unless the circuit of the updates or an unwritable
token keeps it back. The request goes to the entity exactly if the id is plain: only then is there one segment that
reads as the id in its place, and then no other plain id has the same target. -/
theorem addressed {u : Url} (hroot : IsRoot (a.root r p).toList u) (w : World σ τ) :
    ∃ news : List (Event τ), ((a.act r p id).on w).2.journal = news ++ w.journal ∧
      (∀ q x, .sent q x ∈ news → a.Addressed r p u id q ∨ a.Renews p q) ∧
      (Fits (a.address r p id) → isWritable (a.call r p id).address = true →
        (∃ q x, .sent q x ∈ news ∧ a.Addressed r p u id q) ∨ a.IsHeld id w news) := by
  obtain ⟨news, hjournal, hsent, hsends⟩ := a.act_sends r p id w
  refine ⟨news, hjournal, fun q x hq => ?_, fun hfits hwritable => ?_⟩
  · rcases hsent q x hq with hcarries | hrenews
    · exact Or.inl (a.addressed_of_carries r p id hroot hcarries)
    · exact Or.inr hrenews
  · rcases hsends ((exists_carries hroot).mpr ⟨hfits, hwritable⟩) with ⟨q, x, hq, hcarries⟩ | hheld
    · exact Or.inl ⟨q, x, hq, a.addressed_of_carries r p id hroot hcarries⟩
    · exact Or.inr hheld

theorem addressed_workspace :
    ∃ u, IsRoot (delete.root Keeper.confirming.registry Keeper.confirming.provider).toList u ∧
      ∃ q x, .sent q x ∈ ((delete.act Keeper.confirming.registry Keeper.confirming.provider "a-1").on
        Rehearsal.plain.world).2.journal ∧ q.method = "DELETE" ∧ delete.route.Leads "a-1".toList u q.url := by
  have hroot : IsRoot (delete.root Keeper.confirming.registry Keeper.confirming.provider).toList _ :=
    ⟨rfl, rfl, rfl, rfl⟩
  obtain ⟨news, hjournal, -, hsends⟩ :=
    addressed Keeper.confirming.registry Keeper.confirming.provider "a-1" delete hroot Rehearsal.plain.world
  rcases hsends (by decide) rfl with ⟨q, x, hq, haddressed⟩ | hheld
  · refine ⟨_, hroot, q, x, ?_, haddressed.carries.method, haddressed.leads.mpr (by decide)⟩
    rw [hjournal]
    exact List.mem_append_left _ hq
  · cases hheld

/-- The targets of what is sent in an operation. -/
def targets (a : Aim) (id : String) : List String :=
  ((a.act Keeper.confirming.registry Keeper.confirming.provider id).on Rehearsal.plain.world).2.journal.filterMap
    fun e => e.sending?.map (·.1.url.target)

/-- Ids that differ behind a mark have the same targets, which are not those of their routes. -/
theorem misaddressed :
    (update .inactive).targets "a#x" = ["/api/v1/sessions/a"] ∧
      (update .inactive).targets "a#y" = ["/api/v1/sessions/a"] ∧
      delete.targets "a#x" = ["/api/v2/workspaces/a"] ∧ delete.targets "a#y" = ["/api/v2/workspaces/a"] :=
  ⟨rfl, rfl, rfl, rfl⟩

end Aim

end SessionKeeper

import Mathlib.Data.List.Forall2
import SessionKeeper.Proofs.Json.Depth
import SessionKeeper.Proofs.Provider.Talk
import SessionKeeper.Rehearsal

/-!
# What comes of an answer

* `mapM_eq_ok_iff`, `mapM_error` : a list is read whole, or it fails of the first item that cannot be read.
* `Reply.IsShown` : the body of an answer is empty, or it is text in its character set.
* `Exchange.IsStray`, `Exchange.stray_iff` : the exchanges that fail of something that is no failure of a remote call;
  `Exchange.unshown` is one for rehearsals.
* `Exchange.IsUnread`, `Exchange.unread_iff` : those that bring no value for something that is no such failure;
  `Reply.isTooDeep_of_brackets` is how an accepted answer does, whatever its room.
-/

namespace SessionKeeper

variable {α β : Type}

/-! ## Lists that are read item by item -/

theorem mapM_eq_ok_iff {read : β → Except Fault α} {items : List β} {as : List α} :
    items.mapM read = .ok as ↔ List.Forall₂ (fun j a => read j = .ok a) items as := by
  induction items generalizing as with
  | nil => cases as <;> simp [pure, Except.pure]
  | cons j items ih =>
    rw [List.mapM_cons]
    cases hj : read j with
    | error e => cases as <;> simp [bind, Except.bind, hj]
    | ok a =>
      cases hrest : items.mapM read with
      | error e => cases as <;> simp [bind, Except.bind, ← ih, hrest, hj]
      | ok bs => cases as <;> simp [bind, Except.bind, pure, Except.pure, ← ih, hrest, hj]

theorem mapM_error {read : β → Except Fault α} {items : List β} {e : Fault} (h : items.mapM read = .error e) :
    ∃ before j after, items = before ++ j :: after ∧ (∀ i ∈ before, ∃ a, read i = .ok a) ∧ read j = .error e := by
  induction items with
  | nil => cases h
  | cons j items ih =>
    rw [List.mapM_cons] at h
    cases hj : read j with
    | error f =>
      rw [hj] at h
      obtain rfl : f = e := Except.error.inj h
      exact ⟨[], j, items, rfl, by simp, hj⟩
    | ok a =>
      rw [hj] at h
      cases hrest : items.mapM read with
      | ok bs =>
        rw [hrest] at h
        cases h
      | error f =>
        rw [hrest] at h
        obtain rfl : f = e := Except.error.inj h
        obtain ⟨before, i, after, rfl, hbefore, hi⟩ := ih hrest
        exact ⟨j :: before, i, after, rfl, List.forall_mem_cons.mpr ⟨⟨a, hj⟩, hbefore⟩, hi⟩

/-! ## Exchanges -/

theorem Exchange.outcome_ok {x : Exchange} {url : Url} {operation : String} {reply : Reply}
    (h : x.outcome url operation = .ok reply) : x = .received reply ∧ reply.isAccepted = true := by
  cases x with
  | received r =>
    have hreply : r.outcome url operation = .ok reply := h
    unfold Reply.outcome at hreply
    split_ifs at hreply with hurl haccepted
    obtain rfl : r = reply := Except.ok.inj hreply
    exact ⟨rfl, haccepted⟩
  | lost message => cases h
  | undecodable message status => cases h
  | tooManyRedirects message status => cases h
  | closed => cases h

/-- The body is empty, or it is text in its character set. -/
def Reply.IsShown (r : Reply) : Prop := r.body = [] ∨ ∃ text, r.text = .ok text

theorem Reply.failureMessage_ok_iff (r : Reply) (operation : String) :
    (∃ m, r.failureMessage operation = .ok m) ↔ r.IsShown := by
  unfold failureMessage IsShown
  dsimp only
  split_ifs with hempty
  · exact ⟨fun _ => Or.inl (by simpa using hempty), fun _ => ⟨_, rfl⟩⟩
  · have hbody : r.body ≠ [] := by simpa using hempty
    cases r.text with
    | error e => simp [hbody, bind, Except.bind]
    | ok text => exact ⟨fun _ => Or.inr ⟨text, rfl⟩, fun _ => ⟨_, rfl⟩⟩

/-- The exchange fails of something that is no failure of a remote call: its answer could not be taken, or refuses with
a body that cannot be shown. -/
def Exchange.IsStray (url : Url) : Exchange → Prop
  | .received reply => url.isAbsolute = false ∨ (400 ≤ reply.status ∧ ¬ reply.IsShown)
  | .lost _ => False
  | .undecodable .. | .tooManyRedirects .. | .closed => True

theorem Exchange.stray_iff {x : Exchange} {url : Url} {operation : String} :
    x.IsStray url ↔ ∃ e, x.outcome url operation = .error e ∧ e.isOwn = false := by
  cases x with
  | received reply =>
    show (_ ∨ _) ↔ ∃ e, reply.outcome url operation = .error e ∧ e.isOwn = false
    unfold Reply.outcome
    cases habsolute : url.isAbsolute with
    | false => exact ⟨fun _ => ⟨_, rfl, rfl⟩, fun _ => Or.inl rfl⟩
    | true =>
      by_cases hrefused : 400 ≤ reply.status
      · have haccepted : reply.isAccepted = false := by simpa [Reply.isAccepted] using hrefused
        rw [haccepted]
        have hshown := reply.failureMessage_ok_iff operation
        cases hmessage : reply.failureMessage operation with
        | ok m =>
          have hown : reply.failure operation = .call (.ofStatus reply.status) m operation (some reply.status) := by
            rw [Reply.failure, hmessage]
          simp [hown, hshown.mp ⟨m, hmessage⟩, Fault.call, Fault.isOwn]
        | error f =>
          have hstray : reply.failure operation = f := by rw [Reply.failure, hmessage]
          have hunshown : ¬ reply.IsShown := fun h => by
            obtain ⟨m, hm⟩ := hshown.mpr h
            cases hmessage.symm.trans hm
          simp [hstray, hrefused, hunshown, Reply.failureMessage_only reply operation f hmessage]
      · have haccepted : reply.isAccepted = true := by simpa [Reply.isAccepted] using hrefused
        rw [haccepted]
        simp [hrefused]
  | lost m =>
    constructor
    · intro h
      cases h
    · rintro ⟨e, he, hstray⟩
      obtain rfl := Except.error.inj he
      cases hstray
  | undecodable m status => exact ⟨fun _ => ⟨_, rfl, rfl⟩, fun _ => trivial⟩
  | tooManyRedirects m status => exact ⟨fun _ => ⟨_, rfl, rfl⟩, fun _ => trivial⟩
  | closed => exact ⟨fun _ => ⟨_, rfl, rfl⟩, fun _ => trivial⟩

theorem Exchange.outcome_failure {x : Exchange} {url : Url} {operation : String} {e : Fault}
    (h : x.outcome url operation = .error e) :
    (∃ kind m status, e = .call kind m operation status) ∨ (e.isOwn = false ∧ x.IsStray url) := by
  rcases outcome_error h with ⟨status, m, -, rfl⟩ | ⟨m, rfl⟩ | hstray
  · exact Or.inl ⟨_, _, _, rfl⟩
  · exact Or.inl ⟨_, _, _, rfl⟩
  · exact Or.inr ⟨hstray, stray_iff.mpr ⟨e, h, hstray⟩⟩

/-- The exchange brings no value for something that is no failure of a remote call: it is a stray, or its answer was
accepted and is nested too deeply. -/
def Exchange.IsUnread (url : Url) (x : Exchange) : Prop :=
  x.IsStray url ∨ ∃ reply, x = .received reply ∧ reply.status < 400 ∧ reply.IsTooDeep

theorem Reply.isTooDeep_of_brackets {r : Reply} {opened closed : Nat} (hroom : r.room < opened)
    (hbody : r.body = List.replicate opened 91 ++ List.replicate closed 93) : r.IsTooDeep := by
  rw [IsTooDeep, hbody]
  exact Json.ofOctets_brackets hroom closed

theorem Exchange.outcome_received {reply : Reply} {url : Url} (hstatus : reply.status < 400)
    (habsolute : url.isAbsolute = true) (operation : String) :
    (Exchange.received reply).outcome url operation = .ok reply := by
  show reply.outcome url operation = .ok reply
  simp [Reply.outcome, Reply.isAccepted, hstatus, habsolute]

theorem Exchange.unread_iff {x : Exchange} {url : Url} {operation : String} :
    x.IsUnread url ↔ ∃ e, x.value url operation = .error e ∧ e.isOwn = false := by
  have hstray (h : x.IsStray url) : ∃ e, x.value url operation = .error e ∧ e.isOwn = false := by
    obtain ⟨e, houtcome, he⟩ := stray_iff.mp h
    exact ⟨e, by rw [value, houtcome]; rfl, he⟩
  constructor
  · rintro (h | ⟨reply, rfl, hstatus, hdeep⟩)
    · exact hstray h
    · cases habsolute : url.isAbsolute with
      | false => exact hstray (Or.inl habsolute)
      | true =>
        refine ⟨.tooDeep, ?_, rfl⟩
        rw [value, outcome_received hstatus habsolute]
        exact hdeep.value operation
  · rintro ⟨e, hvalue, he⟩
    rcases value_error_cases hvalue with houtcome | ⟨reply, houtcome, hreply⟩
    · exact Or.inl (stray_iff.mpr ⟨e, houtcome, he⟩)
    · obtain ⟨rfl, haccepted⟩ := outcome_ok houtcome
      rcases Reply.value_error hreply with ⟨m, rfl⟩ | ⟨-, hdeep⟩
      · cases he
      · exact Or.inr ⟨reply, rfl, by simpa [Reply.isAccepted] using haccepted, hdeep⟩

/-- An answer with a body that is no text in the character set which it names. -/
def Exchange.unshown (status : Int) : Exchange :=
  .answered ⟨status, [65, 0, 66, 0], some "text/plain; charset=utf-16"⟩

end SessionKeeper

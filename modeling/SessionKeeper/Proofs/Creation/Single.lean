import SessionKeeper.Proofs.Circuit.Budget
import SessionKeeper.Proofs.Pass.Run
import SessionKeeper.Proofs.Provider.Making

/-!
# One workspace for a creation

The creation of a workspace for a session makes up to two attempts, with one name and one template, whatever becomes of
the messages. So a provider that never gives a name twice gains one workspace at most.

* `Act.Ran` : between two worlds an action was done in these worlds, and nothing else of its kind.
* `Guard.retry_ran` : the attempts of a retried call; all but the last failed of something that may pass.
* `Provider.Gains` : how the names of a provider may grow along a journal.
* `Creation.createFor_single` : the attempts of a creation, their requests, and the names that the provider gains.
-/

namespace SessionKeeper

variable {σ τ α β : Type}

/-! ## Runs of an action -/

/-- Between two worlds the action was done in these worlds, in this order; the rest stayed within a scope. -/
inductive Act.Ran (a : Act σ τ α) (s : Scope) : World σ τ → List (World σ τ) → World σ τ → Prop
  | never {w v : World σ τ} (h : Advance s w v) : Ran a s w [] v
  | again {w u v : World σ τ} {us : List (World σ τ)} (before : Advance s w u) (after : Ran a s (a.on u).2 us v) :
    Ran a s w (u :: us) v

namespace Act.Ran

variable {a : Act σ τ α} {s : Scope} {u v w : World σ τ} {us : List (World σ τ)}

theorem of_before (h : Advance s w u) (hran : Ran a s u us v) : Ran a s w us v := by
  cases hran with
  | never hrest => exact .never (h.trans hrest)
  | again before after => exact .again (h.trans before) after

theorem of_after (hran : Ran a s w us u) (h : Advance s u v) : Ran a s w us v := by
  induction hran with
  | never hrest => exact .never (hrest.trans h)
  | again before _ ih => exact .again before (ih h)

theorem once (before : Advance s w u) (after : Advance s (a.on u).2 v) : Ran a s w [u] v := .again before (.never after)

theorem journal (hran : Ran a s w us v) (ha : ∀ u, ∃ news, (a.on u).2.journal = news ++ u.journal) :
    ∃ news, v.journal = news ++ w.journal ∧
      ∀ e ∈ news, s.Allows e ∨ ∃ u ∈ us, ∃ done, (a.on u).2.journal = done ++ u.journal ∧ e ∈ done := by
  induction hran with
  | never h =>
    obtain ⟨news, hnews, hallowed⟩ := h.journal
    exact ⟨news, hnews, fun e he => Or.inl (hallowed e he)⟩
  | @again w u v us before _ ih =>
    obtain ⟨earlier, hearlier, hallowed⟩ := before.journal
    obtain ⟨done, hdone⟩ := ha u
    obtain ⟨later, hlater, hrest⟩ := ih
    refine ⟨later ++ (done ++ earlier), by rw [hlater, hdone, hearlier]; simp, fun e he => ?_⟩
    rcases List.mem_append.mp he with he | he
    · refine (hrest e he).imp_right fun ⟨u', hu', hdone'⟩ => ⟨u', List.mem_cons_of_mem u hu', hdone'⟩
    · rcases List.mem_append.mp he with he | he
      · exact Or.inr ⟨u, List.mem_cons_self, done, hdone, he⟩
      · exact Or.inl (hallowed e he)

end Act.Ran

/-- The action failed in the world of something that may pass. -/
def Act.FailsForNow (a : Act σ τ α) (u : World σ τ) : Prop := ∃ e, (a.on u).1 = .error e ∧ e.isRetryable = true

variable [Timeline τ] [Surroundings σ τ]

/-! ## Attempts -/

namespace Guard

variable {g : Guard τ} {key : String} {s : Scope}

/-- The attempts of a retried call, by induction on those that are left. -/
theorem retryFrom_ran (call : Act σ τ α) (hkey : s.touches key) (attempt left : Nat) (last : Option Fault)
    (w : World σ τ) :
    ∃ us, us.length ≤ left + 1 ∧ call.Ran s w us ((g.retryFrom key call attempt last left).on w).2 ∧
      ∀ u ∈ us.dropLast, call.FailsForNow u := by
  induction left using Nat.strongRecOn generalizing attempt last w with
  | ind left ih =>
    have hasked := g.within_isOpen hkey w
    have hfailed {u z : World σ τ} {e : Fault} (hcall : call.on u = (.error e, z)) :
        Advance s (call.on u).2 ((g.fail key).on z).2 := by
      rw [hcall]
      exact g.within_fail hkey z
    have honward := g.retryFrom_onward key call attempt last left w
    generalize (g.retryFrom key call attempt last left).on w = r at honward ⊢
    cases honward with
    | rejected hask =>
      rw [hask] at hasked
      exact ⟨[], by simp, .never hasked, by simp⟩
    | @returned u z a hask hcall =>
      rw [hask] at hasked
      have hdone : Advance s (call.on u).2 ((succeed key).on z).2 := by
        rw [hcall]
        exact within_succeed hkey z
      exact ⟨[u], by simp, .once hasked hdone, by simp⟩
    | @raised u z e hask hcall =>
      rw [hask] at hasked
      exact ⟨[u], by simp, .once hasked (hfailed hcall), by simp⟩
    | @stuck u z y e f n hask hcall he hleft hpause =>
      have hpaused := keeps_pause (Advance.course s) g attempt ((g.fail key).on z).2
      rw [hpause] at hpaused
      rw [hask] at hasked
      exact ⟨[u], by simp, .once hasked ((hfailed hcall).trans hpaused), by simp⟩
    | @again u z y e n hask hcall he hleft hpause =>
      have hpaused := keeps_pause (Advance.course s) g attempt ((g.fail key).on z).2
      rw [hpause] at hpaused
      rw [hask] at hasked
      subst hleft
      obtain ⟨us, hfew, hran, hpassing⟩ := ih n (Nat.lt_succ_self n) (attempt + 1) (some e) y
      have hfails : call.FailsForNow u := ⟨e, by rw [hcall], he⟩
      refine ⟨u :: us, by simpa using hfew, .again hasked (hran.of_before ((hfailed hcall).trans hpaused)), ?_⟩
      cases us with
      | nil => simp
      | cons u' us => exact List.forall_mem_cons.mpr ⟨hfails, hpassing⟩

theorem retry_ran (call : Act σ τ α) (hkey : s.touches key) (attempts : Int) (w : World σ τ) :
    ∃ us, us.length ≤ attempts.toNat ∧ call.Ran s w us ((g.retry key attempts call).on w).2 ∧
      ∀ u ∈ us.dropLast, call.FailsForNow u := by
  unfold retry
  split_ifs with hnone
  · exact ⟨[], by simp, .never (.refl s w), by simp⟩
  · obtain ⟨us, hfew, hran, hpassing⟩ := g.retryFrom_ran call hkey 1 (attempts.toNat - 1) none w
    exact ⟨us, by omega, hran, hpassing⟩

end Guard

/-! ## The names of a provider -/

/-- How the names of a provider may grow along a journal, whatever it answers: a request for a new workspace may add
its name unless that is taken, and nothing else adds one. -/
inductive Provider.Gains (names : List String) : List (Event τ) → List String → Prop
  | start : Gains names [] names
  | idle {js : List (Event τ)} {after : List String} (e : Event τ) (h : Gains names js after) :
    Gains names (e :: js) after
  | made {js : List (Event τ)} {after : List String} {r : Request} {name : String} (x : Exchange)
    (h : Gains names js after) (hwanted : r.wanted? = some name) (hfree : name ∉ after) :
    Gains names (.sent r x :: js) (name :: after)

/-- The names of a provider after a journal if it gives every name that it may. -/
def Provider.gainable (names : List String) : List (Event τ) → List String
  | [] => names
  | .sent r _ :: js =>
    match r.wanted? with
    | some name => if name ∈ gainable names js then gainable names js else name :: gainable names js
    | none => gainable names js
  | _ :: js => gainable names js

omit [Timeline τ] [Surroundings σ τ] in
theorem Provider.gains_gainable (names : List String) (js : List (Event τ)) :
    Provider.Gains names js (Provider.gainable names js) := by
  induction js with
  | nil => exact .start
  | cons e js ih =>
    cases e with
    | sent r x =>
      unfold gainable
      split
      · rename_i name hwanted
        split_ifs with htaken
        · exact .idle _ ih
        · exact .made x ih hwanted htaken
      · exact .idle _ ih
    | _ => exact .idle _ ih

omit [Timeline τ] [Surroundings σ τ] in
/-- If all requests for new workspaces ask for one name, then no other name is gained, and that one only once. -/
theorem Provider.Gains.single {names after : List String} {js : List (Event τ)} {name : String}
    (h : Provider.Gains names js after) (hone : ∀ r x n, .sent r x ∈ js → r.wanted? = some n → n = name) :
    after = names ∨ (name ∉ names ∧ after = name :: names) := by
  induction h with
  | start => exact Or.inl rfl
  | idle e _ ih => exact ih fun r x n hsent => hone r x n (List.mem_cons_of_mem e hsent)
  | @made js after r n x _ hwanted hfree ih =>
    obtain rfl : n = name := hone r x n List.mem_cons_self hwanted
    rcases ih fun r x n hsent => hone r x n (List.mem_cons_of_mem _ hsent) with rfl | ⟨-, rfl⟩
    · exact Or.inr ⟨hfree, rfl⟩
    · exact absurd List.mem_cons_self hfree

/-! ## One attempt -/

namespace Provider

omit [Timeline τ] in
theorem Making.wanted {p : Provider} {name templateId : String} {w u v : World σ τ} {first other : List Message}
    {outcome : Except Fault Workspace} (h : p.Making name templateId w first other u outcome v) :
    ∃ news, v.journal = news ++ w.journal ∧ ∀ r x, .sent r x ∈ news → r.wanted? ≠ none →
      ∃ path, (p.createCall path name templateId).Carries r := by
  obtain ⟨made, hposted, -⟩ := h.posted
  obtain ⟨later, hlater, hquiet⟩ := h.quiet.journal
  refine ⟨later ++ Message.events (first ++ other), by rw [hlater, hposted.journal, List.append_assoc],
    fun r x hsent hwanted => ?_⟩
  rcases List.mem_append.mp hsent with hsent | hsent
  · have hallowed : r.IsQuiet p.keyring := hquiet _ hsent
    exact absurd hallowed.wanted hwanted
  · obtain ⟨m, hm, hevent⟩ := List.mem_map.mp (List.mem_reverse.mp hsent)
    cases m with
    | call r' x' =>
      obtain ⟨rfl, rfl⟩ := Event.sent.inj hevent
      rcases List.mem_append.mp hm with hm | hm
      · exact ⟨_, hposted.firstCalls _ _ hm⟩
      · exact ⟨_, hposted.otherCalls _ _ hm⟩
    | renewal r' x' =>
      obtain ⟨rfl, rfl⟩ := Event.sent.inj hevent
      obtain ⟨token, hcall⟩ := hposted.renewals _ _ hm
      have hquiet : r'.IsQuiet p.keyring := Or.inr ⟨token, Call.carries_of_request hcall⟩
      exact absurd hquiet.wanted hwanted

end Provider

/-! ## A creation -/

namespace Creation

/-- Requests for new workspaces are none of the rest that a creation does. -/
def otherwise : Scope := ⟨fun r => r.wanted? = none, fun _ => True⟩

theorem within_rest (c : Creation τ) (s : Session) (t : Template) (x : Workspace) :
    (do
      tolerating (c.provider.start x.id)
      if c.mirrors then tolerating (c.mirror s x t.id)
      return x : Act σ τ Workspace).Within otherwise := by
  have hstart : (tolerating (c.provider.start x.id) : Act σ τ Unit).Within otherwise :=
    within_tolerating (c.provider.within_start (fun r h => h.wanted) x.id fun r h => Provider.wanted_transition h)
  refine Act.within_bind hstart fun _ => ?_
  have hmirror : (tolerating (c.mirror s x t.id) : Act σ τ Unit).Within otherwise :=
    within_tolerating (Act.within_bind
      (c.registry.within_createRecordRetrying _ trivial fun r h => Registry.wanted_record h)
      fun _ => Act.within_pure _ _)
  split_ifs
  · exact Act.within_bind hmirror fun _ => Act.within_pure _ _
  · exact Act.within_pure _ _

theorem createFor_ran (c : Creation τ) (s : Session) (w : World σ τ) :
    ∃ templateId us, us.length ≤ 2 ∧
      (c.provider.createOrGet (c.nameFor s w) templateId).Ran otherwise w us ((c.createFor s).on w).2 ∧
      ∀ u ∈ us.dropLast, (c.provider.createOrGet (c.nameFor s w) templateId).FailsForNow u := by
  have hquiet (r : Request) (h : r.IsQuiet c.provider.keyring) : otherwise.sends r := h.wanted
  have hcourse := Advance.course (σ := σ) (τ := τ) otherwise
  have hlisted := c.provider.keeps_templates hcourse hquiet w
  unfold createFor
  rw [Act.on_bind]
  rcases htemplates : (c.provider.templates : Act σ τ (List Template)).on w with ⟨e | ts, u⟩
  · rw [htemplates] at hlisted
    exact ⟨"", [], by simp, .never hlisted, by simp⟩
  · rw [htemplates] at hlisted
    rw [Act.next_ok]
    cases Template.choose ts s.tags c.houseWord with
    | none => exact ⟨"", [], by simp, .never hlisted, by simp⟩
    | some t =>
      have htime : c.timeOf w = ((Effect.milliseconds : Effect σ τ Int).on u).1 := by rw [timeOf, htemplates]; rfl
      have hread := hlisted.trans (Effect.keeps_milliseconds hcourse u)
      have hkey : otherwise.touches (circuitKey s.id) := trivial
      obtain ⟨us, hfew, hran, hpassing⟩ := c.guard.retry_ran (c.provider.createOrGet (c.nameFor s w) t.id) hkey attempts
        ((Effect.milliseconds : Effect σ τ Int).on u).2
      refine ⟨t.id, us, hfew, .of_before hread (hran.of_after ?_), hpassing⟩
      dsimp only
      unfold createFrom
      rw [Act.on_bind, Act.on_bind, Act.on_ofEffect, Act.next_ok, Act.on_bind, ← htime]
      have hname : WorkspaceName.generate s.id s.name (c.timeOf w) = c.nameFor s w := rfl
      rw [hname]
      rcases (c.guard.retry (circuitKey s.id) attempts (c.provider.createOrGet (c.nameFor s w) t.id)).on
        ((Effect.milliseconds : Effect σ τ Int).on u).2 with ⟨e | x, z⟩
      · exact .refl _ z
      · have hrest := c.within_rest s t x z
        rw [Act.next_ok]
        rcases hfinished : (do
          tolerating (c.provider.start x.id)
          if c.mirrors then tolerating (c.mirror s x t.id)
          return x : Act σ τ Workspace).on z with ⟨e | x', v⟩
        · rw [hfinished] at hrest
          exact hrest
        · rw [hfinished] at hrest
          exact hrest

/-- **A creation asks for one workspace, whatever becomes of its messages.** All its requests for a new workspace hold
the same name and template. It makes up to two attempts, the second one only after a failure that may pass; each
attempt goes as `Provider.Making` says: the other route is sent something if and only if the first one ended with the
status 404 or 405, and a name that is taken is looked up in the list. So a provider that gives no name that is taken
gains one workspace at most. -/
theorem createFor_single (c : Creation τ) (s : Session) (w : World σ τ) :
    ∃ templateId us news, ((c.createFor s).on w).2.journal = news ++ w.journal ∧
      (∀ r x, .sent r x ∈ news → r.wanted? ≠ none →
        r.method = "POST" ∧ r.body = some (Provider.createBody (c.nameFor s w) templateId)) ∧
      us.length ≤ 2 ∧
      (c.provider.createOrGet (c.nameFor s w) templateId).Ran otherwise w us ((c.createFor s).on w).2 ∧
      (∀ u ∈ us.dropLast, (c.provider.createOrGet (c.nameFor s w) templateId).FailsForNow u) ∧
      (∀ u ∈ us, ∃ first other u', c.provider.Making (c.nameFor s w) templateId u first other u'
        ((c.provider.createOrGet (c.nameFor s w) templateId).on u).1
        ((c.provider.createOrGet (c.nameFor s w) templateId).on u).2) ∧
      ∀ names after, Provider.Gains names news after →
        after = names ∨ (c.nameFor s w ∉ names ∧ after = c.nameFor s w :: names) := by
  obtain ⟨templateId, us, hfew, hran, hpassing⟩ := c.createFor_ran s w
  have hmaking (u : World σ τ) := c.provider.createOrGet_making (c.nameFor s w) templateId u
  obtain ⟨news, hnews, hevents⟩ := hran.journal fun u => by
    obtain ⟨first, other, u', h⟩ := hmaking u
    exact h.wanted.imp fun _ h => h.1
  have hone (r : Request) (x : Exchange) (hsent : .sent r x ∈ news) (hwanted : r.wanted? ≠ none) :
      ∃ path, (c.provider.createCall path (c.nameFor s w) templateId).Carries r := by
    rcases hevents _ hsent with hother | ⟨u, -, done, hdone, hmem⟩
    · exact absurd hother hwanted
    · obtain ⟨first, other, u', h⟩ := hmaking u
      obtain ⟨done', hdone', hcalls⟩ := h.wanted
      obtain rfl : done = done' := List.append_cancel_right (hdone.symm.trans hdone')
      exact hcalls r x hmem hwanted
  refine ⟨templateId, us, news, hnews, fun r x hsent hwanted => ?_, hfew, hran, hpassing, fun u _ => hmaking u,
    fun names after hgains => hgains.single fun r x n hsent hn => ?_⟩
  · obtain ⟨path, hcarries⟩ := hone r x hsent hwanted
    exact ⟨hcarries.method, hcarries.body⟩
  · obtain ⟨path, hcarries⟩ := hone r x hsent (by simp [hn])
    exact Option.some.inj (hn.symm.trans (Provider.wanted_create hcarries))

end Creation

/-! ## Runs -/

namespace Rehearsal

/-- The provider loses its answer to the first request for a workspace, which it made, and refuses the second one. -/
def forgetful : Rehearsal :=
  let named : Json := .object [("id", .text "w"), ("name", .text "ws-a1-alpha-0000")]
  { plain with
    routes := [
      ("GET /api/v2/templates", [answer 200 (.list [.object [("id", .text "t"), ("name", .text "base")]])]),
      ("POST /api/v2/users/me/workspaces", [answer 500 .null, answer 409 .null]),
      ("GET /api/v2/workspaces", [answer 200 (.list [named])]),
      ("*", [answer 200 .null])] }

/-- The provider refuses a name that is taken, with a text in UTF-16 that does not say which way round it is. -/
def mumbling : Rehearsal :=
  let refusal : Scripted := ⟨409, [0x41, 0, 0x42, 0], "text/plain; charset=utf-16"⟩
  { forgetful with routes := ("POST /api/v2/users/me/workspaces", [.answered refusal]) :: forgetful.routes }

end Rehearsal

/-- The provider that lost its answer has made one workspace. -/
theorem Creation.createFor_single_forgetful :
    let c := Keeper.confirming.creation
    let w := ((c.createFor (.rehearsed "a1")).on Rehearsal.forgetful.world).2
    Provider.Gains [] w.journal ["ws-a1-alpha-0000"] ∧
      ∀ after, Provider.Gains [] w.journal after → after = [] ∨ after = ["ws-a1-alpha-0000"] := by
  intro c w
  have hgained : Provider.Gains [] w.journal ["ws-a1-alpha-0000"] := by
    have hgainable : Provider.gainable [] w.journal = ["ws-a1-alpha-0000"] := by decide +kernel
    exact hgainable ▸ Provider.gains_gainable [] w.journal
  obtain ⟨-, -, news, hnews, -, -, -, -, -, hsingle⟩ :=
    createFor_single c (.rehearsed "a1") Rehearsal.forgetful.world
  have hall : w.journal = news := hnews.trans (List.append_nil news)
  rw [hall] at hgained ⊢
  -- the name that is given is the one that is asked for
  have hname : c.nameFor (.rehearsed "a1") Rehearsal.forgetful.world = "ws-a1-alpha-0000" := by decide +kernel
  refine ⟨hgained, fun after hgains => ?_⟩
  rcases hsingle [] after hgains with hnone | ⟨-, hone⟩
  · exact Or.inl hnone
  · exact Or.inr (hname ▸ hone)

namespace Event

/-- A request for a new workspace was refused, since its name is taken. -/
def isConflict : Event τ → Bool
  | .sent r (.received reply) => r.wanted?.isSome && reply.status == 409
  | _ => false

def isQuestion : Event τ → Bool
  | .sent r _ => r.method == "GET"
  | _ => false

end Event

namespace Provider

/-- If a name was refused since it is taken, then something is asked for. -/
def HeedsConflict (js : List (Event τ)) : Prop := (∃ e ∈ js, e.isConflict = true) → ∃ e ∈ js, e.isQuestion = true

instance (js : List (Event τ)) : Decidable (HeedsConflict js) := inferInstanceAs (Decidable (_ → _))

/-- A conflict whose text cannot be shown is not followed by the list of workspaces. -/
theorem conflict_unheeded :
    ¬ HeedsConflict ((Keeper.confirming.provider.createOrGet "ws-a1-alpha-0000" "t").on
      Rehearsal.mumbling.world).2.journal := by
  decide +kernel

end Provider

end SessionKeeper

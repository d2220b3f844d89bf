import Mathlib.Tactic.Common
import SessionKeeper.Proofs.Action
import SessionKeeper.Rehearsal
import SessionKeeper.Service.Site

/-!
# What a service leaves behind

The installed service outlives an application whose start it refuses; an application that ends in order leaves none.

* `SiteAct.on` : the result of a step of a process, and the process after it.
* `Runtime.Refuses`, `Site.RefusesToStart` : a timetable with more tasks than workers does not start.
* `Site.startUp_start` : what a start comes to.
* `Site.Lifespan`, `Site.Lifespans` : an application from its start to its end, and applications one after another.
* `Site.lifespan_leaves` : when a service stays installed, and what that means for the next application.
-/

namespace SessionKeeper

variable {σ τ α β : Type}

/-! ## Steps of a process -/

namespace SiteAct

/-- The result of a step in a process, or its failure, and the process after it. -/
def on (a : SiteAct σ τ α) (s : Site σ τ) : Except Fault α × Site σ τ := (StateT.run (ExceptT.run a) s).run

@[simp] theorem on_pure (a : α) (s : Site σ τ) : (pure a : SiteAct σ τ α).on s = (.ok a, s) := rfl

@[simp] theorem on_throw (e : Fault) (s : Site σ τ) : (throw e : SiteAct σ τ α).on s = (.error e, s) := rfl

@[simp] theorem on_get (s : Site σ τ) : (get : SiteAct σ τ (Site σ τ)).on s = (.ok s, s) := rfl

@[simp] theorem on_set (t s : Site σ τ) : (set t : SiteAct σ τ PUnit).on s = (.ok ⟨⟩, t) := rfl

@[simp] theorem on_modify (f : Site σ τ → Site σ τ) (s : Site σ τ) :
    (modify f : SiteAct σ τ PUnit).on s = (.ok ⟨⟩, f s) := rfl

/-- The rest of a step after its first part. -/
def next (f : α → SiteAct σ τ β) (r : Except Fault α × Site σ τ) : Except Fault β × Site σ τ :=
  match r.1 with
  | .ok a => (f a).on r.2
  | .error e => (.error e, r.2)

@[simp] theorem next_ok (f : α → SiteAct σ τ β) (a : α) (s : Site σ τ) : next f (.ok a, s) = (f a).on s := rfl

@[simp] theorem next_error (f : α → SiteAct σ τ β) (e : Fault) (s : Site σ τ) :
    next f (.error e, s) = (.error e, s) := rfl

theorem on_bind (a : SiteAct σ τ α) (f : α → SiteAct σ τ β) (s : Site σ τ) : (a >>= f).on s = next f (a.on s) := by
  unfold next
  show StateT.run (ExceptT.run a >>= ExceptT.bindCont f) s = _
  rcases h : a.on s with ⟨e | x, t⟩
  · have hrun : StateT.run (ExceptT.run a) s = (.error e, t) := h
    rw [StateT.run_bind, hrun]
    rfl
  · have hrun : StateT.run (ExceptT.run a) s = (.ok x, t) := h
    rw [StateT.run_bind, hrun]
    rfl

end SiteAct

/-! ## New services -/

theorem Service.settings_eq {ofSeconds : Float → τ} {settings : Settings} {service : Service τ}
    (h : ofSettings ofSeconds settings = .ok service) : service.settings = settings := by
  unfold ofSettings at h
  cases hregistry : Registry.connect? settings.registryBaseUrl (guardOf ofSeconds settings) with
  | error e => simp [hregistry, bind, Except.bind] at h
  | ok r =>
    cases hprovider : Provider.connect? settings.providerBaseUrl with
    | error e => simp [hregistry, hprovider, bind, Except.bind] at h
    | ok p =>
      simp only [hregistry, hprovider, bind, Except.bind, pure, Except.pure, Except.ok.injEq] at h
      rw [← h]

theorem Runtime.settings_eq {ofSeconds : Float → τ} {settings : Settings} {r : Runtime τ}
    (h : ofSettings ofSeconds settings = .ok r) : r.service.settings = settings := by
  unfold ofSettings at h
  cases hservice : Service.ofSettings ofSeconds settings with
  | error e =>
    rw [hservice] at h
    cases h
  | ok service =>
    rw [hservice] at h
    obtain rfl := Except.ok.inj h
    exact Service.settings_eq hservice

/-! ## Refused starts -/

/-- The timetable rests, and it has more tasks than workers or no workers. -/
def Timetable.Refuses (t : Timetable α) : Prop :=
  t.isRunning = false ∧ (t.workers < t.tasks.length ∨ t.workers ≤ 0)

/-- The timetable of the service is to be started, and refuses. -/
def Runtime.Refuses (r : Runtime τ) : Prop :=
  r.service.settings.schedulerEnabled = true ∧ r.upkeep.timetable.Refuses

theorem Timetable.start_ok_iff (t : Timetable α) : t.start.1 = none ↔ ¬ t.Refuses := by
  unfold start Refuses
  split_ifs with hrunning hmany hnone
  · simp [hrunning]
  · simp [hrunning, hmany]
  · simp [hrunning, hnone]
  · simp [hmany, hnone]

theorem Timetable.Refuses.start {t : Timetable α} (h : t.Refuses) : t.start.2.Refuses := by
  obtain ⟨hrests, hworkers⟩ := h
  unfold Timetable.start
  split_ifs
  · exact ⟨hrests, hworkers⟩
  · exact ⟨hrests, hworkers⟩
  · exact ⟨hrests, hworkers⟩
  · omega

namespace Site

/-- The service that an application for some settings starts: the installed one, else a new one. -/
def Candidate (ofSeconds : Float → τ) (settings : Settings) (s : Site σ τ) (r : Runtime τ) : Prop :=
  match s.installed with
  | some i => s.runtimes[i]? = some r
  | none => Runtime.ofSettings ofSeconds settings = .ok r

theorem Candidate.unique {ofSeconds : Float → τ} {settings : Settings} {s : Site σ τ} {r r' : Runtime τ}
    (h : s.Candidate ofSeconds settings r) (h' : s.Candidate ofSeconds settings r') : r = r' := by
  unfold Candidate at h h'
  cases hinstalled : s.installed with
  | some i =>
    rw [hinstalled] at h h'
    exact Option.some.inj (h.symm.trans h')
  | none =>
    rw [hinstalled] at h h'
    exact Except.ok.inj (h.symm.trans h')

/-- The service that an application for some settings starts refuses. -/
def RefusesToStart (ofSeconds : Float → τ) (settings : Settings) (s : Site σ τ) : Prop :=
  ∃ r, s.Candidate ofSeconds settings r ∧ r.Refuses

/-- The installed service is one of the process. -/
def Sound (s : Site σ τ) : Prop := ∀ i, s.installed = some i → i < s.runtimes.length

theorem sound_of_installed {s : Site σ τ} {i : Nat} {r : Runtime τ} (hinstalled : s.installed = some i)
    (hlast : s.runtimes[i]? = some r) : s.Sound := by
  intro j hj
  obtain rfl : i = j := Option.some.inj (hinstalled.symm.trans hj)
  exact (List.getElem?_eq_some_iff.mp hlast).1

/-! ## Steps of the installed service -/

theorem current_on (s : Site σ τ) :
    current.on s = (s.installed.elim (.error (.badState missingMessage)) .ok, s) := by
  unfold current
  rw [SiteAct.on_bind, SiteAct.on_get, SiteAct.next_ok]
  cases s.installed <;> rfl

/-- What an application finds: the installed service whatever its settings, else one of its own. -/
theorem ensure_on (ofSeconds : Float → τ) (settings : Settings) (s : Site σ τ) :
    (ensure ofSeconds settings).on s =
      match s.installed, Runtime.ofSettings ofSeconds settings with
      | some i, _ => (.ok i, s)
      | none, .ok r => (.ok s.runtimes.length, { s with
          runtimes := s.runtimes ++ [r]
          installed := some s.runtimes.length })
      | none, .error e => (.error e, s) := by
  unfold ensure
  rw [SiteAct.on_bind, SiteAct.on_get, SiteAct.next_ok]
  cases s.installed with
  | some i => rfl
  | none =>
    dsimp only
    rw [SiteAct.on_bind]
    unfold build
    cases Runtime.ofSettings ofSeconds settings <;> rfl

def carryOut (f : Service τ → Duty σ τ α) (r : Runtime τ) (s : Site σ τ) : (Except Fault α × Upkeep) × World σ τ :=
  (((f r.service).run.run r.upkeep).run ⟨s.outside, r.circuits, r.credential, s.journal⟩).run

theorem act_on {s : Site σ τ} {i : Nat} {r : Runtime τ} (h : s.runtimes[i]? = some r) (f : Service τ → Duty σ τ α) :
    (act i f).on s = ((carryOut f r s).1.1, { s with
      outside := (carryOut f r s).2.outside
      journal := (carryOut f r s).2.journal
      runtimes := s.runtimes.set i { r with
        upkeep := (carryOut f r s).1.2
        circuits := (carryOut f r s).2.circuits
        credential := (carryOut f r s).2.credential } }) := by
  have hruntime : (runtime i).on s = (.ok r, s) := by
    unfold runtime
    rw [SiteAct.on_bind, SiteAct.on_get, SiteAct.next_ok, h]
    rfl
  unfold act
  rw [SiteAct.on_bind, hruntime, SiteAct.next_ok, SiteAct.on_bind, SiteAct.on_get, SiteAct.next_ok]
  rcases hduty : carryOut f r s with ⟨⟨outcome, upkeep⟩, w⟩
  have hrun : StateT.run ((f r.service).run.run r.upkeep) ⟨s.outside, r.circuits, r.credential, s.journal⟩ =
      ((outcome, upkeep), w) := hduty
  rw [hrun]
  cases outcome <;> rfl

/-- Whatever a service does, the services of the process stay in their places and the same one stays installed. -/
theorem act_frame (i : Nat) (f : Service τ → Duty σ τ α) (s : Site σ τ) :
    ((act i f).on s).2.installed = s.installed ∧ ((act i f).on s).2.runtimes.length = s.runtimes.length := by
  cases hr : s.runtimes[i]? with
  | none =>
    have hmissing : (act i f).on s = (.error (.badState missingMessage), s) := by
      unfold act runtime
      rw [SiteAct.on_bind, SiteAct.on_bind, SiteAct.on_get, SiteAct.next_ok, hr]
      rfl
    rw [hmissing]
    exact ⟨rfl, rfl⟩
  | some r =>
    rw [act_on hr]
    exact ⟨rfl, List.length_set⟩

theorem carryOut_start (r : Runtime τ) (s : Site σ τ) :
    (carryOut (·.start) r s).1 =
      if r.service.settings.schedulerEnabled then
        (r.upkeep.timetable.start.1.elim (.ok ()) .error,
          { r.upkeep with timetable := r.upkeep.timetable.start.2 })
      else (.ok (), r.upkeep) := by
  have hget (f : Upkeep → Duty σ τ Unit) :
      StateT.run (ExceptT.run (get >>= f)) r.upkeep = StateT.run (ExceptT.run (f r.upkeep)) r.upkeep := rfl
  unfold carryOut Service.start
  dsimp only
  split_ifs with henabled
  · rw [hget]
    rcases r.upkeep.timetable.start with ⟨refusal | e, t⟩ <;> rfl
  · rfl

/-- A service starts unless it refuses; one that refuses stays as it was and will refuse again. -/
theorem act_start {s : Site σ τ} {i : Nat} {r : Runtime τ} (h : s.runtimes[i]? = some r) :
    (((act i (·.start)).on s).1 = .ok () ↔ ¬ r.Refuses) ∧
      (r.Refuses → ∃ r', ((act i (·.start)).on s).2.runtimes[i]? = some r' ∧ r'.Refuses) := by
  have hcarried := carryOut_start r s
  rw [act_on h]
  unfold Runtime.Refuses
  cases henabled : r.service.settings.schedulerEnabled with
  | false =>
    rw [henabled] at hcarried
    simp [hcarried]
  | true =>
    rw [henabled, if_pos rfl] at hcarried
    have hstart := r.upkeep.timetable.start_ok_iff
    constructor
    · simp only [hcarried, true_and, ← hstart]
      cases r.upkeep.timetable.start.1 <;> simp
    · rintro ⟨-, hrefuses⟩
      refine ⟨_, List.getElem?_set_self (List.getElem?_eq_some_iff.mp h).1, henabled, ?_⟩
      simp only [hcarried]
      exact hrefuses.start

/-! ## Applications -/

/-- What a start comes to: no service can be had, the service starts, or it refuses and stays installed. -/
inductive Start (ofSeconds : Float → τ) (settings : Settings) (s : Site σ τ) : Except Fault Nat × Site σ τ → Prop
  | unbuilt {e : Fault} (hnone : s.installed = none) (hbuild : Runtime.ofSettings ofSeconds settings = .error e) :
    Start ofSeconds settings s (.error e, s)
  | started {r : Runtime τ} {i : Nat} {u : Site σ τ} (hcandidate : s.Candidate ofSeconds settings r)
    (hwilling : ¬ r.Refuses) (hlast : i < u.runtimes.length) : Start ofSeconds settings s (.ok i, u)
  | refused {r r' : Runtime τ} {i : Nat} {e : Fault} {u : Site σ τ} (hcandidate : s.Candidate ofSeconds settings r)
    (hrefuses : r.Refuses) (hinstalled : u.installed = some i) (hkept : s.installed = some i ∨ s.installed = none)
    (hlast : u.runtimes[i]? = some r') (hagain : r'.Refuses) : Start ofSeconds settings s (.error e, u)

theorem ensure_candidate {ofSeconds : Float → τ} {settings : Settings} {s : Site σ τ} {r : Runtime τ}
    (h : s.Candidate ofSeconds settings r) :
    ∃ i u, (ensure ofSeconds settings).on s = (.ok i, u) ∧ u.installed = some i ∧ u.runtimes[i]? = some r ∧
      (s.installed = some i ∨ s.installed = none) := by
  rw [ensure_on]
  unfold Candidate at h
  cases hinstalled : s.installed with
  | some i =>
    rw [hinstalled] at h
    exact ⟨i, s, rfl, hinstalled, h, Or.inl rfl⟩
  | none =>
    rw [hinstalled] at h
    dsimp only at h
    rw [h]
    exact ⟨_, _, rfl, rfl, by simp, Or.inr rfl⟩

theorem startUp_start (ofSeconds : Float → τ) (settings : Settings) {s : Site σ τ} (hs : s.Sound) :
    s.Start ofSeconds settings ((startUp ofSeconds settings).on s) := by
  unfold startUp
  rw [SiteAct.on_bind]
  by_cases hfound : ∃ r, s.Candidate ofSeconds settings r
  · obtain ⟨r, hcandidate⟩ := hfound
    obtain ⟨i, u, hensure, hinstalled, hlast, hkept⟩ := ensure_candidate hcandidate
    obtain ⟨hok, hagain⟩ := act_start hlast
    obtain ⟨hsame, hlength⟩ := act_frame i (·.start) u
    rw [hensure, SiteAct.next_ok, SiteAct.on_bind]
    rcases hact : (act i (·.start)).on u with ⟨e | ⟨⟩, v⟩
    · rw [hact] at hok hagain hsame
      have hrefuses : r.Refuses := by
        by_contra hwilling
        cases hok.mpr hwilling
      obtain ⟨r', hlater, hagain⟩ := hagain hrefuses
      exact .refused hcandidate hrefuses (hsame.trans hinstalled) hkept hlater hagain
    · rw [hact] at hok hlength
      refine .started hcandidate (hok.mp rfl) ?_
      rw [hlength]
      exact (List.getElem?_eq_some_iff.mp hlast).1
  · rw [ensure_on]
    unfold Candidate at hfound
    cases hinstalled : s.installed with
    | some i =>
      rw [hinstalled] at hfound
      exact absurd ⟨_, List.getElem?_eq_getElem (hs i hinstalled)⟩ hfound
    | none =>
      rw [hinstalled] at hfound
      cases hbuild : Runtime.ofSettings ofSeconds settings with
      | error e => exact .unbuilt hinstalled hbuild
      | ok r => exact absurd ⟨r, hbuild⟩ hfound

variable [Surroundings σ τ]

theorem shutDown_on {t : Site σ τ} {i : Nat} (hi : i < t.runtimes.length) :
    (shutDown i).on t = (.ok (), { ((act i fun _ => Service.shutDown).on t).2 with installed := none }) := by
  have hr : t.runtimes[i]? = some t.runtimes[i] := List.getElem?_eq_getElem hi
  unfold shutDown
  rw [SiteAct.on_bind, act_on hr]
  rfl

/-- An application from its start to its end: it ends at once if it does not start; if it does, anything may happen
until it is shut down, but the services of the process stay. -/
inductive Lifespan (ofSeconds : Float → τ) (settings : Settings) (s : Site σ τ) : Site σ τ → Prop
  | failed {e : Fault} {v : Site σ τ} (hstart : (startUp ofSeconds settings).on s = (.error e, v)) :
    Lifespan ofSeconds settings s v
  | ended {i : Nat} {u t v : Site σ τ} {outcome : Except Fault Unit}
    (hstart : (startUp ofSeconds settings).on s = (.ok i, u)) (hkept : u.runtimes.length ≤ t.runtimes.length)
    (hend : (shutDown i).on t = (outcome, v)) : Lifespan ofSeconds settings s v

/-- What an application leaves: no service, or the one that refused. -/
theorem Lifespan.leaves {ofSeconds : Float → τ} {settings : Settings} {s v : Site σ τ} (hs : s.Sound)
    (h : s.Lifespan ofSeconds settings v) :
    (v.installed = none ∧ ¬ s.RefusesToStart ofSeconds settings) ∨
      ∃ i r, v.installed = some i ∧ v.runtimes[i]? = some r ∧ r.Refuses ∧
        (s.installed = some i ∨ s.installed = none) ∧ s.RefusesToStart ofSeconds settings := by
  have hcases := startUp_start ofSeconds settings hs
  cases h with
  | failed hstart =>
    rw [hstart] at hcases
    cases hcases with
    | unbuilt hnone hbuild =>
      refine Or.inl ⟨hnone, ?_⟩
      rintro ⟨r, hcandidate, -⟩
      unfold Candidate at hcandidate
      rw [hnone] at hcandidate
      cases hbuild.symm.trans hcandidate
    | refused hcandidate hrefuses hinstalled hkept hlast hagain =>
      exact Or.inr ⟨_, _, hinstalled, hlast, hagain, hkept, _, hcandidate, hrefuses⟩
  | ended hstart hkept hend =>
    rw [hstart] at hcases
    cases hcases with
    | started hcandidate hwilling hlast =>
      rw [shutDown_on (Nat.lt_of_lt_of_le hlast hkept)] at hend
      refine Or.inl ⟨?_, ?_⟩
      · rw [← (Prod.mk.inj hend).2]
      · rintro ⟨r, hother, hrefuses⟩
        rw [hother.unique hcandidate] at hrefuses
        exact hwilling hrefuses

theorem Lifespan.sound {ofSeconds : Float → τ} {settings : Settings} {s v : Site σ τ} (hs : s.Sound)
    (h : s.Lifespan ofSeconds settings v) : v.Sound := by
  rcases h.leaves hs with ⟨hnone, -⟩ | ⟨i, r, hinstalled, hlast, -⟩
  · intro j hj
    cases hnone.symm.trans hj
  · exact sound_of_installed hinstalled hlast

theorem RefusesToStart.lifespan {ofSeconds : Float → τ} {settings : Settings} {s : Site σ τ} (hs : s.Sound)
    (h : s.RefusesToStart ofSeconds settings) : ∃ i v, s.Lifespan ofSeconds settings v ∧ v.installed = some i := by
  have hcases := startUp_start ofSeconds settings hs
  rcases hstart : (startUp ofSeconds settings).on s with ⟨e | i, v⟩
  · have hspan : s.Lifespan ofSeconds settings v := .failed hstart
    rcases hspan.leaves hs with ⟨-, hwilling⟩ | ⟨i, r, hinstalled, -⟩
    · exact absurd h hwilling
    · exact ⟨i, v, hspan, hinstalled⟩
  · rw [hstart] at hcases
    cases hcases with
    | started hcandidate hwilling =>
      obtain ⟨r, hother, hrefuses⟩ := h
      rw [hother.unique hcandidate] at hrefuses
      exact absurd hrefuses hwilling

/-- Applications one after another, each with its settings. -/
inductive Lifespans (ofSeconds : Float → τ) : Site σ τ → List Settings → Site σ τ → Prop
  | none (s : Site σ τ) : Lifespans ofSeconds s [] s
  | more {s u v : Site σ τ} {settings : Settings} {rest : List Settings} (hfirst : s.Lifespan ofSeconds settings u)
    (hrest : Lifespans ofSeconds u rest v) : Lifespans ofSeconds s (settings :: rest) v

theorem Lifespans.sound {ofSeconds : Float → τ} {s v : Site σ τ} {later : List Settings} (hs : s.Sound)
    (h : Lifespans ofSeconds s later v) : v.Sound := by
  induction h with
  | none s => exact hs
  | more hfirst hrest ih => exact ih (hfirst.sound hs)

/-- An installed service that refuses stays installed, whatever the settings of the applications to come. -/
theorem Lifespans.stuck {ofSeconds : Float → τ} {s v : Site σ τ} {later : List Settings} {i : Nat} {r : Runtime τ}
    (h : Lifespans ofSeconds s later v) (hinstalled : s.installed = some i) (hlast : s.runtimes[i]? = some r)
    (hrefuses : r.Refuses) : v.installed = some i := by
  induction h generalizing r with
  | none s => exact hinstalled
  | @more s u v settings rest hfirst hrest ih =>
    have hs := sound_of_installed hinstalled hlast
    have hcandidate : s.Candidate ofSeconds settings r := by
      unfold Candidate
      rw [hinstalled]
      exact hlast
    rcases hfirst.leaves hs with ⟨-, hwilling⟩ | ⟨j, r', hafter, hlater, hagain, hkept, -⟩
    · exact absurd ⟨r, hcandidate, hrefuses⟩ hwilling
    · obtain rfl : i = j := by
        rw [hinstalled] at hkept
        simpa using hkept
      exact ih hafter hlater hagain

/-- An application leaves no service installed exactly if the service that it started did not refuse. Where none is
left, requests find none and the next application builds its own; where one is left, it is the one that refused, and
every later application finds it and leaves it, whatever its settings. -/
theorem lifespan_leaves {ofSeconds : Float → τ} {settings : Settings} {s v : Site σ τ} (hs : s.Sound)
    (h : s.Lifespan ofSeconds settings v) :
    (v.installed = none ↔ ¬ s.RefusesToStart ofSeconds settings) ∧
    (v.installed = none → current.on v = (.error (.badState missingMessage), v) ∧
      ∀ other r, Runtime.ofSettings ofSeconds other = .ok r → r.service.settings = other ∧
        (ensure ofSeconds other).on v = (.ok v.runtimes.length, { v with
          runtimes := v.runtimes ++ [r]
          installed := some v.runtimes.length })) ∧
    (∀ i, v.installed = some i → (∀ other, (ensure ofSeconds other).on v = (.ok i, v)) ∧
      ∀ later w, Lifespans ofSeconds v later w → w.installed = some i) := by
  refine ⟨?_, fun hnone => ⟨?_, fun other r hbuild => ?_⟩, fun i hi => ⟨fun other => ?_, fun later w hlater => ?_⟩⟩
  · rcases h.leaves hs with ⟨hnone, hwilling⟩ | ⟨i, r, hinstalled, -, -, -, hrefuses⟩
    · exact iff_of_true hnone hwilling
    · exact iff_of_false (by simp [hinstalled]) (not_not_intro hrefuses)
  · rw [current_on, hnone]
    rfl
  · exact ⟨Runtime.settings_eq hbuild, by rw [ensure_on, hnone, hbuild]⟩
  · rw [ensure_on, hi]
  · rcases h.leaves hs with ⟨hnone, -⟩ | ⟨j, r, hinstalled, hlast, hrefuses, -⟩
    · cases hnone.symm.trans hi
    · obtain rfl : j = i := Option.some.inj (hinstalled.symm.trans hi)
      exact hlater.stuck hi hlast hrefuses

theorem lifespan_leaves_none :
    ∃ (settings : Settings) (s v : Site Rehearsal Number), s.Lifespan Number.real settings v ∧
      v.runtimes.length = 1 ∧ v.installed = none := by
  obtain ⟨settings, u, hidle, hstart, hone⟩ : ∃ (settings : Settings) (u : Site Rehearsal Number),
      settings.schedulerEnabled = false ∧
        (startUp Number.real settings).on ⟨.plain, [], none, .initial, []⟩ = (.ok 0, u) ∧ u.runtimes.length = 1 := by
    obtain ⟨settings, hidle, hsettings⟩ : ∃ settings, settings.schedulerEnabled = false ∧
        Settings.ofChoices [("scheduler_enabled", .plain (.bool false))] = .ok settings := ⟨_, rfl, rfl⟩
    cases hsettings
    exact ⟨_, _, hidle, rfl, rfl⟩
  have hspan : Lifespan Number.real settings ⟨.plain, [], none, .initial, []⟩ ((shutDown 0).on u).2 :=
    .ended hstart (Nat.le_refl _) rfl
  have hs : Sound (⟨.plain, [], none, .initial, []⟩ : Site Rehearsal Number) := nofun
  refine ⟨settings, _, _, hspan, ?_, (lifespan_leaves hs hspan).1.mpr ?_⟩
  · rw [shutDown_on (by rw [hone]; exact Nat.one_pos)]
    exact (act_frame 0 _ u).2.trans hone
  · rintro ⟨r, hbuild, henabled, -⟩
    rw [Runtime.settings_eq hbuild, hidle] at henabled
    cases henabled

/-- A service with three tasks and two workers stays installed after its start failed. -/
theorem lifespan_leaves_refused :
    ¬ ∀ (settings : Settings) (s v : Site Rehearsal Number), s.Sound → s.Lifespan Number.real settings v →
      v.installed = none := by
  intro h
  obtain ⟨settings, service, henabled, hworkers, hservice⟩ : ∃ (settings : Settings) (service : Service Number),
      settings.schedulerEnabled = true ∧ settings.schedulerWorkers < (Service.tasksOf settings).length ∧
        Service.ofSettings Number.real settings = .ok service := by
    obtain ⟨settings, service, hsettings, hservice⟩ : ∃ settings service,
        Settings.ofChoices [("scheduler_workers", .plain (.number (.integer 2)))] = .ok settings ∧
          Service.ofSettings Number.real settings = .ok service := ⟨_, _, rfl, rfl⟩
    cases hsettings
    exact ⟨_, service, rfl, by decide, hservice⟩
  let r : Runtime Number :=
    ⟨service, ⟨⟨settings.schedulerWorkers, Service.tasksOf settings, none, false⟩, .empty⟩, [], ⟨none, none⟩⟩
  let s : Site Rehearsal Number := ⟨.plain, [r], some 0, .initial, []⟩
  have hs : s.Sound := sound_of_installed rfl rfl
  have hrefuses : r.Refuses := ⟨(congrArg Settings.schedulerEnabled (Service.settings_eq hservice)).trans henabled,
    rfl, Or.inl hworkers⟩
  have hstart : s.RefusesToStart Number.real settings := ⟨r, rfl, hrefuses⟩
  obtain ⟨i, v, hspan, hinstalled⟩ := hstart.lifespan hs
  cases hinstalled.symm.trans (h settings s v hs hspan)

end Site

end SessionKeeper

import SessionKeeper.Proofs.Circuit.Entry
import SessionKeeper.Rehearsal

/-!
# The circuits are their history

The entry of a key can be read off what was done with it since it was last forgotten.

* `Deed`, `Past` : something that was done with the circuits, and all that was done, newest first.
* `Past.circuit` : the entry that a past gives a key. Failures count since the key was last forgotten; a
  call counts as let through only since the latest failure.
* `Guard.History` : the worlds that a past leads to, whatever else happens in between.
* `Guard.History.find_eq` : the circuits agree with their past.
* `Guard.History.decides` : what follows for the answers to questions.
-/

namespace SessionKeeper

/-! ## The past -/

/-- Something that was done with the circuits. -/
inductive Deed (τ : Type) where
  | asked (key : String) (rejected : Bool)
  | succeeded (key : String)
  | failed (key : String) (time : τ)
  /-- Quiet keys were forgotten, these ones. -/
  | pruned (dropped : List String)
  | reset

namespace Deed

variable {τ : Type}

def forgets (key : String) : Deed τ → Bool
  | succeeded k => k == key
  | pruned dropped => dropped.contains key
  | reset => true
  | _ => false

def failure? (key : String) : Deed τ → Option τ
  | failed k t => if k = key then some t else none
  | _ => none

/-- Whether a call for the key is let through. -/
def grants (key : String) : Deed τ → Bool
  | asked k rejected => k == key && !rejected
  | _ => false

end Deed

/-- All that was done with the circuits, newest first. -/
abbrev Past (τ : Type) := List (Deed τ)

namespace Past

variable {τ : Type}

/-- What was done since the key was last forgotten. -/
def sinceForgotten (h : Past τ) (key : String) : Past τ := h.takeWhile fun d => !d.forgets key

/-- The times of the failures of the key since it was last forgotten, the latest first. -/
def failures (h : Past τ) (key : String) : List τ := (h.sinceForgotten key).filterMap (·.failure? key)

def sinceFailure (h : Past τ) (key : String) : Past τ := h.takeWhile fun d => (d.failure? key).isNone

/-- Whether a call for the key was let through since its latest failure. -/
def granted (h : Past τ) (key : String) : Bool := (h.sinceFailure key).any (·.grants key)

def phase (rule : CircuitRule τ) (h : Past τ) (key : String) : Phase :=
  if ((h.failures key).length : Int) < rule.threshold then .closed
  else if h.granted key then .halfOpen
  else .opened

/-- The entry that a past gives a key: there is one exactly if the key failed since it was last forgotten. -/
def circuit (rule : CircuitRule τ) (h : Past τ) (key : String) : Option (Circuit τ) :=
  (h.failures key).head?.map fun latest => ⟨(h.failures key).length, latest, h.phase rule key⟩

/-! ### One deed more -/

variable {key : String} {d : Deed τ} {h : Past τ}

theorem failures_forgets (hd : d.forgets key = true) : failures (d :: h) key = [] := by
  simp [failures, sinceForgotten, hd]

theorem failures_cons (hd : d.forgets key = false) :
    failures (d :: h) key = (d.failure? key).toList ++ failures h key := by
  unfold failures sinceForgotten
  rw [List.takeWhile_cons, if_pos (by simp [hd]), List.filterMap_cons]
  cases d.failure? key <;> rfl

theorem granted_failure (hd : (d.failure? key).isSome = true) : granted (d :: h) key = false := by
  have hnone : (d.failure? key).isNone = false := by simpa using hd
  simp [granted, sinceFailure, hnone]

theorem granted_cons (hd : d.failure? key = none) :
    granted (d :: h) key = (d.grants key || granted h key) := by
  simp [granted, sinceFailure, hd]

theorem circuit_of_failures (rule : CircuitRule τ) {latest : τ} {rest : List τ}
    (hf : failures h key = latest :: rest) :
    circuit rule h key = some ⟨rest.length + 1, latest, phase rule h key⟩ := by
  rw [circuit, hf, List.head?_cons, Option.map_some, List.length_cons]

theorem circuit_forgets (rule : CircuitRule τ) (hd : d.forgets key = true) :
    circuit rule (d :: h) key = none := by
  simp [circuit, failures_forgets hd]

theorem circuit_idle (rule : CircuitRule τ) (hf : d.forgets key = false) (hd : d.failure? key = none)
    (hg : d.grants key = false) : circuit rule (d :: h) key = circuit rule h key := by
  have hfail : failures (d :: h) key = failures h key := by simp [failures_cons hf, hd]
  have hgrant : granted (d :: h) key = granted h key := by simp [granted_cons hd, hg]
  unfold circuit phase
  rw [hfail, hgrant]

theorem circuit_failed (rule : CircuitRule τ) (h : Past τ) (key : String) (t : τ) :
    circuit rule (.failed key t :: h) key =
      some (Circuits.worsened rule t (circuit rule h key)) := by
  have hfail : failures (.failed key t :: h) key = t :: failures h key := by
    rw [failures_cons rfl]
    simp [Deed.failure?]
  have hgrant : granted (.failed key t :: h) key = false := granted_failure (by simp [Deed.failure?])
  have hcount : ((circuit rule h key).elim 0 (·.failures)) = (failures h key).length := by
    unfold circuit
    cases failures h key <;> rfl
  unfold Circuits.worsened
  rw [hcount, circuit, hfail]
  simp only [List.head?_cons, Option.map_some, List.length_cons, phase, hfail, hgrant, Option.some.injEq,
    Circuit.mk.injEq, true_and, Bool.false_eq_true, if_false]
  by_cases hlow : (((failures h key).length + 1 : Nat) : Int) < rule.threshold
  · -- below the threshold now, so below it before
    rw [if_pos hlow, if_neg (by omega)]
    unfold circuit
    cases hh : (failures h key).head? with
    | none => rfl
    | some latest => simp [phase, show ((failures h key).length : Int) < rule.threshold by omega]
  · rw [if_neg hlow, if_pos (by omega)]

theorem circuit_granted [Timeline τ] (rule : CircuitRule τ) (h : Past τ) (key : String) (now : τ)
    (hr : (circuit rule h key).any (·.rejects rule now) = false) :
    circuit rule (.asked key false :: h) key = (circuit rule h key).map (·.asked rule now) := by
  have hfail : failures (.asked key false :: h) key = failures h key := failures_cons rfl
  have hgrant : granted (.asked key false :: h) key = true := by
    rw [granted_cons rfl]
    simp [Deed.grants]
  unfold circuit at hr ⊢
  rw [hfail]
  cases hh : (failures h key).head? with
  | none => rfl
  | some latest =>
    rw [hh] at hr
    simp only [Option.map_some, Option.any_some, Circuit.rejects] at hr
    simp only [Option.map_some, Circuit.asked, Circuit.rejects, phase, hfail, hgrant]
    unfold phase at hr
    split_ifs at hr ⊢ with hlow hg
    all_goals simp_all

end Past

/-! ## Worlds with a past -/

namespace Guard

variable {σ τ : Type} [Timeline τ] [Surroundings σ τ] {g : Guard τ} {h : Past τ} {w : World σ τ}

/-- The worlds that a past leads to from worlds without circuits. Between two deeds anything may happen
that leaves the circuits alone: calls, waiting, other threads. -/
inductive History (g : Guard τ) : Past τ → World σ τ → Prop
  | start {w : World σ τ} : w.circuits = [] → History g [] w
  | elsewhere {h : Past τ} {w v : World σ τ} : History g h w → v.circuits = w.circuits → History g h v
  | asked {h : Past τ} {w : World σ τ} (key : String) : History g h w →
      History g (.asked key ((g.isOpen key).on w).1 :: h) ((g.isOpen key).on w).2
  | succeeded {h : Past τ} {w : World σ τ} (key : String) : History g h w →
      History g (.succeeded key :: h) ((succeed key : Effect σ τ Unit).on w).2
  | failed {h : Past τ} {w : World σ τ} (key : String) : History g h w →
      History g (.failed key w.time :: h) ((g.fail key).on w).2
  | pruned {h : Past τ} {w : World σ τ} : History g h w →
      History g (.pruned ((w.circuits.map (·.1)).filter fun key => ((g.prune.on w).2.circuits.find key).isNone) :: h)
        (g.prune.on w).2
  | reset {h : Past τ} {w : World σ τ} : History g h w →
      History g (.reset :: h) ((reset : Effect σ τ Unit).on w).2

namespace History

theorem distinct (hw : g.History h w) : w.circuits.Distinct := by
  induction hw with
  | start hnil => rw [hnil]; exact Circuits.distinct_nil
  | elsewhere _ hsame ih => rw [hsame]; exact ih
  | asked key _ ih => rw [circuits_isOpen]; exact ih.ask g.rule key _
  | succeeded key _ ih => exact ih.filter _
  | failed key _ ih => exact ih.write key _
  | pruned _ ih => exact ih.filter _
  | reset _ _ => exact Circuits.distinct_nil

theorem find_asked (hw : ∀ key, w.circuits.find key = h.circuit g.rule key) (asked key : String) :
    ((g.isOpen asked).on w).2.circuits.find key =
      Past.circuit g.rule (.asked asked ((g.isOpen asked).on w).1 :: h) key := by
  rw [find_isOpen]
  by_cases hk : key = asked
  · subst hk
    rw [if_pos rfl, isOpen_fst, hw key]
    cases hr : (h.circuit g.rule key).any (·.rejects g.rule w.time) with
    | false => rw [Past.circuit_granted g.rule h key w.time hr]
    | true =>
      rw [Past.circuit_idle g.rule rfl rfl (by simp [Deed.grants])]
      obtain ⟨c, hc, hrej⟩ := (Option.any_eq_true _ _).mp hr
      rw [hc, Option.map_some, Circuit.asked, if_neg (by simp [hrej])]
  · rw [if_neg hk, hw key, Past.circuit_idle g.rule rfl rfl (by simp [Deed.grants, Ne.symm hk])]

theorem find_pruned (hd : w.circuits.Distinct) (hw : ∀ key, w.circuits.find key = h.circuit g.rule key)
    (key : String) :
    (g.prune.on w).2.circuits.find key = Past.circuit g.rule
      (.pruned ((w.circuits.map (·.1)).filter fun k => ((g.prune.on w).2.circuits.find k).isNone) :: h)
      key := by
  have hafter : (g.prune.on w).2.circuits.find key = (w.circuits.find key).filter
      fun c => !Timeline.outdated g.rule.resetTimeout c.lastFailure w.time :=
    Circuits.find_prune hd g.rule w.time key
  cases hfound : (g.prune.on w).2.circuits.find key with
  | some c =>
    rw [Past.circuit_idle g.rule _ rfl rfl, ← hw key]
    · rw [hafter, Option.filter_eq_some_iff] at hfound
      exact hfound.1.symm
    · simp only [Deed.forgets, List.contains_eq_mem, List.mem_filter, hfound, Option.isNone_some,
        Bool.false_eq_true, and_false, decide_false]
  | none =>
    cases hbefore : w.circuits.find key with
    | none =>
      have hmissing : key ∉ w.circuits.map (·.1) := fun hmem => by
        obtain ⟨e, he, hkey⟩ := List.mem_map.mp hmem
        exact Circuits.find_eq_none_iff.mp hbefore e he hkey
      rw [Past.circuit_idle g.rule _ rfl rfl, ← hw key, hbefore]
      simp only [Deed.forgets, List.contains_eq_mem, List.mem_filter, hmissing, false_and, decide_false]
    | some c =>
      have hthere : key ∈ w.circuits.map (·.1) :=
        List.mem_map.mpr ⟨(key, c), Circuits.mem_of_find hbefore, rfl⟩
      rw [Past.circuit_forgets]
      simp only [Deed.forgets, List.contains_eq_mem, List.mem_filter, hthere, hfound, Option.isNone_none,
        true_and, decide_true]

/-- **The circuits are their history.** -/
theorem find_eq (hw : g.History h w) (key : String) : w.circuits.find key = h.circuit g.rule key := by
  induction hw generalizing key with
  | start hnil => rw [hnil]; rfl
  | elsewhere _ hsame ih => rw [hsame]; exact ih key
  | asked asked _ ih => exact find_asked ih asked key
  | @succeeded h w done _ ih =>
    rw [find_succeed]
    by_cases hk : key = done
    · rw [if_pos hk, Past.circuit_forgets]
      simp [Deed.forgets, hk]
    · rw [if_neg hk, ih key, Past.circuit_idle g.rule _ rfl rfl]
      simp [Deed.forgets, Ne.symm hk]
  | @failed h w failing _ ih =>
    rw [find_fail]
    by_cases hk : key = failing
    · subst hk
      rw [if_pos rfl, ih key, Past.circuit_failed]
    · rw [if_neg hk, ih key, Past.circuit_idle g.rule rfl _ rfl]
      simp [Deed.failure?, Ne.symm hk]
  | pruned hw ih => exact find_pruned hw.distinct ih key
  | reset _ _ => rw [circuits_reset, Past.circuit_forgets g.rule rfl]; rfl

/-! ### Answers to questions -/

/-- A question is answered with a rejection exactly by a key at the threshold whose trial is taken, or whose
reset timeout has not passed. -/
theorem isOpen_eq_true_iff (hw : g.History h w) (key : String) :
    ((g.isOpen key).on w).1 = true ↔
      ∃ c, w.circuits.find key = some c ∧ g.rule.threshold ≤ c.failures ∧
        (h.granted key = true ∨ Timeline.elapsed g.rule.resetTimeout c.lastFailure w.time = false) := by
  rw [isOpen_fst, hw.find_eq key, Option.any_eq_true]
  refine exists_congr fun c => and_congr_right fun hc => ?_
  obtain ⟨latest, -, rfl⟩ := Option.map_eq_some_iff.mp hc
  simp only [Circuit.rejects, Past.phase]
  split_ifs with hlow hg
  · simp only [false_iff, not_and]
    exact fun hthreshold => absurd hlow (by omega)
  · simp only [hg, true_or, and_true, true_iff]
    omega
  · simp only [hg, Bool.false_eq_true, false_or, Bool.not_eq_true', iff_and_self]
    exact fun _ => by omega

theorem before {d : Deed τ} (hw : g.History (d :: h) w) : ∃ v : World σ τ, g.History h v ∧
    ∀ key rejected, d = .asked key rejected → ((g.isOpen key).on v).1 = rejected := by
  generalize hall : d :: h = all at hw
  induction hw with
  | start _ => cases hall
  | elsewhere _ _ ih => exact ih hall
  | asked key hv _ =>
    cases hall
    refine ⟨_, hv, fun k rejected hd => ?_⟩
    cases hd
    rfl
  | succeeded key hv _ => cases hall; exact ⟨_, hv, nofun⟩
  | failed key hv _ => cases hall; exact ⟨_, hv, nofun⟩
  | pruned hv _ => cases hall; exact ⟨_, hv, nofun⟩
  | reset hv _ => cases hall; exact ⟨_, hv, nofun⟩

theorem earlier {newer older : Past τ} (hw : g.History (newer ++ older) w) :
    ∃ v : World σ τ, g.History older v := by
  induction newer generalizing w with
  | nil => exact ⟨w, hw⟩
  | cons d newer ih =>
    obtain ⟨v, hv, -⟩ := hw.before
    exact ih hv

end History

end Guard

namespace Past

variable {τ : Type} {key : String}

/-- Where a key neither fails nor is forgotten, its failures stay, and so does a call that was let through. -/
theorem calm {between : Past τ} (older : Past τ)
    (hcalm : ∀ d ∈ between, d.forgets key = false ∧ d.failure? key = none) :
    failures (between ++ older) key = failures older key ∧
      (granted older key = true → granted (between ++ older) key = true) := by
  induction between with
  | nil => exact ⟨rfl, id⟩
  | cons d between ih =>
    obtain ⟨hforgets, hfailure⟩ := hcalm d List.mem_cons_self
    obtain ⟨hfail, hgrant⟩ := ih fun e he => hcalm e (List.mem_cons_of_mem d he)
    rw [List.cons_append, failures_cons hforgets, granted_cons hfailure, hfailure, hfail]
    refine ⟨rfl, fun hg => ?_⟩
    rw [hgrant hg, Bool.or_true]

end Past

namespace Guard

variable {σ τ : Type} [Timeline τ] [Surroundings σ τ] {g : Guard τ} {h : Past τ} {w : World σ τ}

/-- Between two calls that are let through at the threshold the key fails or is forgotten. -/
theorem History.between_grants {newer between older : Past τ} {key : String}
    (hw : g.History (newer ++ .asked key false :: (between ++ .asked key false :: older)) w)
    (hfailed : older.failures key ≠ []) (hthreshold : g.rule.threshold ≤ (older.failures key).length) :
    ∃ d ∈ between, d.forgets key = true ∨ (d.failure? key).isSome = true := by
  by_contra hnone
  push Not at hnone
  have hcalm : ∀ d ∈ between, d.forgets key = false ∧ d.failure? key = none := fun d hd =>
    ⟨Bool.eq_false_iff.mpr (hnone d hd).1, by simpa using (hnone d hd).2⟩
  obtain ⟨u, hu⟩ := hw.earlier
  obtain ⟨v, hv, hanswer⟩ := hu.before
  -- the first call that was let through still holds the trial when the second one asks
  have hfirst : Past.failures (.asked key false :: older) key = older.failures key :=
    Past.failures_cons rfl
  obtain ⟨hfail, hgrant⟩ := Past.calm (.asked key false :: older) hcalm
  have hopen : ((g.isOpen key).on v).1 = true := by
    obtain ⟨latest, rest, hlist⟩ := List.exists_cons_of_ne_nil hfailed
    rw [hlist, List.length_cons] at hthreshold
    have hgranted : Past.granted (.asked key false :: older) key = true := by
      rw [Past.granted_cons rfl]
      simp [Deed.grants]
    rw [hv.isOpen_eq_true_iff, hv.find_eq]
    exact ⟨_, Past.circuit_of_failures g.rule (hfail.trans (hfirst.trans hlist)), hthreshold,
      Or.inl (hgrant hgranted)⟩
  rw [hanswer key false rfl] at hopen
  cases hopen

/-- **The circuits are exactly their history.** A key has an entry iff it failed since it was last
forgotten; the entry counts those failures and has the time of the latest; it is closed below the threshold,
and else half open iff a call was let through since the latest failure. A question is answered accordingly,
and at the threshold no two calls are let through without a failure, or a removal, between them. -/
theorem circuits_of_history (hw : g.History h w) (key : String) :
    (w.circuits.find key ≠ none ↔ h.failures key ≠ []) ∧
    (∀ c, w.circuits.find key = some c →
      c.failures = (h.failures key).length ∧ (h.failures key).head? = some c.lastFailure ∧
      (c.phase = .closed ↔ (c.failures : Int) < g.rule.threshold) ∧
      (c.phase = .halfOpen ↔ g.rule.threshold ≤ c.failures ∧ h.granted key = true)) ∧
    (((g.isOpen key).on w).1 = true ↔
      ∃ c, w.circuits.find key = some c ∧ g.rule.threshold ≤ c.failures ∧
        (h.granted key = true ∨ Timeline.elapsed g.rule.resetTimeout c.lastFailure w.time = false)) ∧
    (∀ newer between older : Past τ,
      h = newer ++ .asked key false :: (between ++ .asked key false :: older) →
      older.failures key ≠ [] → g.rule.threshold ≤ (older.failures key).length →
      ∃ d ∈ between, d.forgets key = true ∨ (d.failure? key).isSome = true) := by
  refine ⟨?_, fun c hc => ?_, hw.isOpen_eq_true_iff key, fun newer between older hh => ?_⟩
  · rw [hw.find_eq key, Past.circuit, Ne, Option.map_eq_none_iff, List.head?_eq_none_iff]
  · rw [hw.find_eq key] at hc
    obtain ⟨latest, hlatest, rfl⟩ := Option.map_eq_some_iff.mp hc
    refine ⟨rfl, hlatest, ?_, ?_⟩
    · simp only [Past.phase]
      split_ifs with hlow hg <;> simp [hlow]
    · simp only [Past.phase]
      split_ifs with hlow hg
      · simp only [false_iff, not_and]
        exact fun hthreshold => absurd hlow (by omega)
      · simp only [hg, and_true, true_iff]
        omega
      · simp [hg]
  · subst hh
    exact hw.between_grants

/-- A key that failed twice, with two failures as the threshold, has an entry with both and rejects a call
at the same time. -/
theorem circuits_of_history_two_failures :
    ∃ w : World Rehearsal Number,
      History ⟨⟨2, 60⟩, none⟩ [.failed "a" 1000, .failed "a" 1000] w ∧
      (∃ c, w.circuits.find "a" = some c ∧ c.failures = 2 ∧ c.phase ≠ .closed) ∧
      ((isOpen ⟨⟨2, 60⟩, none⟩ "a").on w).1 = true := by
  let g : Guard Number := ⟨⟨2, 60⟩, none⟩
  let start : World Rehearsal Number :=
    ⟨{ Rehearsal.plain with clock := 1000 }, [], ⟨none, none⟩, []⟩
  have hstart : History g [] start := .start rfl
  have hone : History g [.failed "a" 1000] ((g.fail "a").on start).2 := hstart.failed "a"
  have hw : History g [.failed "a" 1000, .failed "a" 1000] ((g.fail "a").on ((g.fail "a").on start).2).2 :=
    hone.failed "a"
  obtain ⟨hthere, hentry, hrejects, -⟩ := circuits_of_history hw "a"
  obtain ⟨c, hc⟩ := Option.ne_none_iff_exists'.mp (hthere.mpr (List.cons_ne_nil 1000 [1000]))
  obtain ⟨hcount, hlatest, hclosed, -⟩ := hentry c hc
  have htwo : c.failures = 2 := hcount
  have hthreshold : (2 : Int) ≤ c.failures := by omega
  refine ⟨_, hw, ⟨c, hc, htwo, fun h => absurd (hclosed.mp h) (Int.not_lt.mpr hthreshold)⟩,
    hrejects.mpr ⟨c, hc, hthreshold, Or.inr ?_⟩⟩
  have hlast : c.lastFailure = 1000 := (Option.some.inj hlatest).symm
  rw [hlast]
  decide

end Guard

end SessionKeeper

import SessionKeeper.Proofs.Pass.Calls

/-!
# Calls that interleave

Several calls for passes may be under way at a time. Each takes its steps one by one, and between two of them others
take theirs.

* `Hall`, `Slot` : the calls with what they share, and whose turn it is; `Hall.run` gives out turns.
* `Hall.Orderly` : a pass is marked as running exactly while one call is inside; every turn keeps that.
* `Hall.met`, `Hall.latest?` : the calls that turns found at some point, and the last report of a pass among them.
* `Hall.report_run`, `Hall.hasKept_run`, `Hall.Orderly.leaving_run` : whose report is the last one.
* `Hall.over_of_fair` : a call that always gets a turn again returns, or is refused.
* `Hall.uninterrupted` : a call that nothing interrupts does what `Keeper.runPass` does.
* `Hall.one_run_per_pass` : calls for a pass exclude each other, and leave the reports in order.
-/

namespace SessionKeeper

variable {σ τ : Type}

/-! ## Turns -/

/-- A call for a pass. -/
structure Caller where
  pass : Pass
  progress : Progress

/-- A turn of a call, and what happens outside before it. -/
structure Slot (σ : Type) where
  call : Nat
  meanwhile : σ → σ

/-- The calls for passes, with the desk and the world that they share. -/
structure Hall (σ τ : Type) where
  world : World σ τ
  desk : Desk
  callers : List Caller

namespace Hall

/-- Calls are about to be made while no pass runs; some reports may be there from before. -/
def opened (ps : List Pass) (reports : List Report) (w : World σ τ) : Hall σ τ :=
  ⟨w, ⟨[], reports⟩, ps.map fun p => ⟨p, .called⟩⟩

def lapse (h : Hall σ τ) (meanwhile : σ → σ) : Hall σ τ :=
  { h with world := { h.world with outside := meanwhile h.world.outside } }

def insiders (h : Hall σ τ) (p : Pass) : Nat := h.callers.countP fun c => c.pass == p && c.progress.isInside

/-- The call whose turn it is, with its report, if the turn finds it at that point. -/
def meets (stage? : Progress → Option Report) (h : Hall σ τ) (x : Slot σ) : Option (Nat × Report) :=
  (h.callers[x.call]?).bind fun c => (stage? c.progress).map fun r => (x.call, r)

variable [Timeline τ] [Surroundings σ τ]

/-- One turn: something happens outside, and then the call takes its next step. -/
def slot (k : Keeper τ) (h : Hall σ τ) (x : Slot σ) : Hall σ τ :=
  match h.callers[x.call]? with
  | none => h.lapse x.meanwhile
  | some c =>
    let after := k.afterStep c.pass c.progress h.desk (h.lapse x.meanwhile).world
    ⟨after.2, after.1.2, h.callers.set x.call { c with progress := after.1.1 }⟩

def run (k : Keeper τ) (h : Hall σ τ) (xs : List (Slot σ)) : Hall σ τ := xs.foldl (slot k) h

/-- The calls that some turns found at that point, the latest first. -/
def met (stage? : Progress → Option Report) (k : Keeper τ) : Hall σ τ → List (Slot σ) → List (Nat × Report)
  | _, [] => []
  | h, x :: xs => met stage? k (h.slot k x) xs ++ (h.meets stage? x).toList

/-- The last report of a pass among those. -/
def latest? (ms : List (Nat × Report)) (p : Pass) : Option Report := (ms.find? (·.2.pass == p)).map (·.2)

variable {k : Keeper τ} {h : Hall σ τ} {c : Caller} {i : Nat} {x : Slot σ} {g : Progress} {d : Desk} {w : World σ τ}

theorem slot_none (hc : h.callers[x.call]? = none) : h.slot k x = h.lapse x.meanwhile := by
  unfold slot
  rw [hc]

theorem slot_some (hc : h.callers[x.call]? = some c)
    (hstep : k.afterStep c.pass c.progress h.desk (h.lapse x.meanwhile).world = ((g, d), w)) :
    h.slot k x = ⟨w, d, h.callers.set x.call { c with progress := g }⟩ := by
  unfold slot
  rw [hc]
  dsimp only
  rw [hstep]

theorem callers_slot_own (hc : h.callers[x.call]? = some c)
    (hstep : k.afterStep c.pass c.progress h.desk (h.lapse x.meanwhile).world = ((g, d), w)) :
    (h.slot k x).callers[x.call]? = some { c with progress := g } := by
  obtain ⟨hlt, -⟩ := List.getElem?_eq_some_iff.mp hc
  rw [slot_some hc hstep]
  dsimp only
  rw [List.getElem?_set_self hlt]

theorem callers_slot_other (hi : i ≠ x.call) : (h.slot k x).callers[i]? = h.callers[i]? := by
  cases hc : h.callers[x.call]? with
  | none =>
    rw [slot_none hc]
    rfl
  | some c =>
    rcases hstep : k.afterStep c.pass c.progress h.desk (h.lapse x.meanwhile).world with ⟨⟨g, d⟩, w⟩
    rw [slot_some hc hstep]
    dsimp only
    rw [List.getElem?_set_ne (Ne.symm hi)]

/-! ### Who is inside -/

/-- Each pass is marked as running exactly while a call is inside, and one call only. -/
def Orderly (h : Hall σ τ) : Prop := ∀ p, h.insiders p = if h.desk.isRunning p then 1 else 0

omit [Timeline τ] [Surroundings σ τ] in
theorem orderly_opened (ps : List Pass) (reports : List Report) (w : World σ τ) : (opened ps reports w).Orderly := by
  intro p
  have hnone : (opened ps reports w).insiders p = 0 := by
    unfold insiders opened
    rw [List.countP_eq_zero]
    intro c hc
    obtain ⟨q, -, rfl⟩ := List.mem_map.mp hc
    simp [Progress.isInside]
  rw [hnone]
  rfl

omit [Timeline τ] [Surroundings σ τ] in
theorem insiders_set (hc : h.callers[i]? = some c) (g : Progress) (d : Desk) (w : World σ τ) (p : Pass) :
    (⟨w, d, h.callers.set i { c with progress := g }⟩ : Hall σ τ).insiders p +
        (if c.pass = p ∧ c.progress.isInside = true then 1 else 0) =
      h.insiders p + if c.pass = p ∧ g.isInside = true then 1 else 0 := by
  obtain ⟨hlt, hget⟩ := List.getElem?_eq_some_iff.mp hc
  have hcounted : (if c.pass = p ∧ c.progress.isInside = true then 1 else 0) ≤ h.insiders p := by
    split_ifs with hinside
    · exact List.countP_pos_iff.mpr ⟨c, hget ▸ List.getElem_mem hlt, by simpa using hinside⟩
    · exact Nat.zero_le _
  unfold insiders at hcounted ⊢
  rw [List.countP_set hlt, hget]
  simp only [Bool.and_eq_true, beq_iff_eq]
  omega

omit [Timeline τ] [Surroundings σ τ] in
theorem Orderly.stayed (hh : h.Orderly) (hc : h.callers[i]? = some c) (hsame : g.isInside = c.progress.isInside)
    (hmarked : d.running = h.desk.running) (w : World σ τ) :
    (⟨w, d, h.callers.set i { c with progress := g }⟩ : Hall σ τ).Orderly := by
  intro p
  have hcount := insiders_set hc g d w p
  rw [hsame] at hcount
  have hrunning : d.isRunning p = h.desk.isRunning p := by
    unfold Desk.isRunning
    rw [hmarked]
  rw [hrunning, ← hh p]
  exact Nat.add_right_cancel hcount

omit [Timeline τ] [Surroundings σ τ] in
theorem Orderly.entered (hh : h.Orderly) (hc : h.callers[i]? = some c) (hfree : h.desk.isRunning c.pass = false)
    (hout : c.progress.isInside = false) (hin : g.isInside = true)
    (hmarked : d.running = (h.desk.take c.pass).running) (w : World σ τ) :
    (⟨w, d, h.callers.set i { c with progress := g }⟩ : Hall σ τ).Orderly := by
  intro p
  have hcount := insiders_set hc g d w p
  have hbefore := hh p
  have hrunning : d.isRunning p = (p == c.pass || h.desk.isRunning p) := by
    rw [← Desk.isRunning_take]
    unfold Desk.isRunning
    rw [hmarked]
  rw [hrunning]
  by_cases hp : c.pass = p
  · subst hp
    rw [hfree] at hbefore
    simp only [hout, hin, and_true, if_true, Bool.false_eq_true, and_false, if_false] at hcount hbefore
    rw [beq_self_eq_true, Bool.true_or, if_pos rfl]
    omega
  · simp only [hp, false_and, if_false] at hcount
    rw [beq_false_of_ne (Ne.symm hp), Bool.false_or, ← hbefore]
    exact hcount

omit [Timeline τ] [Surroundings σ τ] in
theorem Orderly.left (hh : h.Orderly) (hc : h.callers[i]? = some c) (hin : c.progress.isInside = true)
    (hout : g.isInside = false) (hmarked : d.running = (h.desk.release c.pass).running) (w : World σ τ) :
    (⟨w, d, h.callers.set i { c with progress := g }⟩ : Hall σ τ).Orderly := by
  intro p
  have hcount := insiders_set hc g d w p
  have hbefore := hh p
  have hrunning : d.isRunning p = (p != c.pass && h.desk.isRunning p) := by
    rw [← Desk.isRunning_release]
    unfold Desk.isRunning
    rw [hmarked]
  rw [hrunning]
  by_cases hp : c.pass = p
  · subst hp
    have hone : h.insiders c.pass ≤ 1 := by
      rw [hbefore]
      split_ifs
      · exact Nat.le_refl 1
      · exact Nat.zero_le 1
    simp only [hout, hin, and_true, if_true, Bool.false_eq_true, and_false, if_false] at hcount
    rw [bne_self_eq_false, Bool.false_and, if_neg Bool.false_ne_true]
    omega
  · simp only [hp, false_and, if_false] at hcount
    have hother : (p != c.pass) = true := bne_iff_ne.mpr (Ne.symm hp)
    rw [hother, Bool.true_and, ← hbefore]
    exact hcount

theorem Orderly.slot (hh : h.Orderly) (x : Slot σ) : (h.slot k x).Orderly := by
  cases hc : h.callers[x.call]? with
  | none =>
    rw [slot_none hc]
    exact hh
  | some c =>
    have hcases := (k.afterStep_step c.pass c.progress h.desk (h.lapse x.meanwhile).world).running
    rcases hstep : k.afterStep c.pass c.progress h.desk (h.lapse x.meanwhile).world with ⟨⟨g, d⟩, w⟩
    rw [hstep] at hcases
    rw [slot_some hc hstep]
    rcases hcases with ⟨hfree, hout, hin, hmarked⟩ | ⟨hin, hout, hmarked⟩ | ⟨hsame, hmarked⟩
    · exact hh.entered hc hfree hout hin hmarked w
    · exact hh.left hc hin hout hmarked w
    · exact hh.stayed hc hsame hmarked w

theorem Orderly.run (hh : h.Orderly) (xs : List (Slot σ)) : (h.run k xs).Orderly := by
  induction xs generalizing h with
  | nil => exact hh
  | cons x xs ih => exact ih (hh.slot x)

/-! ### Reports -/

theorem latest_append (ms ns : List (Nat × Report)) (p : Pass) :
    latest? (ms ++ ns) p = (latest? ms p).or (latest? ns p) := by
  unfold latest?
  rw [List.find?_append, Option.map_or]

/-- A turn changes the last report of a pass exactly if a call of it keeps its own. -/
theorem report_slot (h : Hall σ τ) (x : Slot σ) (p : Pass) : (h.slot k x).desk.report? p =
    (latest? (h.meets Progress.ended? x).toList p).or (h.desk.report? p) := by
  unfold meets
  cases hc : h.callers[x.call]? with
  | none =>
    rw [slot_none hc]
    rfl
  | some c =>
    have hreports := (k.afterStep_step c.pass c.progress h.desk (h.lapse x.meanwhile).world).reports
    rcases hstep : k.afterStep c.pass c.progress h.desk (h.lapse x.meanwhile).world with ⟨⟨g, d⟩, w⟩
    rw [hstep] at hreports
    rw [slot_some hc hstep, Option.bind_some]
    rcases hreports with ⟨r, hended, -, hstored⟩ | ⟨hgoing, -, -, hsame⟩
    · obtain rfl : d = h.desk.store r := hstored
      rw [Desk.report_store, hended]
      by_cases hp : r.pass = p
      · simp [latest?, Progress.ended?, hp]
      · simp [latest?, Progress.ended?, hp]
    · have hfound : d.report? p = h.desk.report? p := by
        unfold Desk.report?
        rw [hsame]
      rw [hfound, hgoing]
      rfl

/-- The last report of a pass is that of the call that kept its own last. -/
theorem report_run (h : Hall σ τ) (xs : List (Slot σ)) (p : Pass) : (h.run k xs).desk.report? p =
    (latest? (h.met Progress.ended? k xs) p).or (h.desk.report? p) := by
  induction xs generalizing h with
  | nil => rfl
  | cons x xs ih =>
    have hrest := ih (h.slot k x)
    rw [report_slot] at hrest
    unfold met
    rw [latest_append, Option.or_assoc]
    exact hrest

omit [Timeline τ] [Surroundings σ τ] in
theorem meets_call {stage? : Progress → Option Report} {r : Report} (h : h.meets stage? x = some (i, r)) :
    i = x.call := by
  unfold meets at h
  obtain ⟨c, -, hfound⟩ := Option.bind_eq_some_iff.mp h
  obtain ⟨r', -, hpair⟩ := Option.map_eq_some_iff.mp hfound
  exact (congrArg Prod.fst hpair).symm

def HasKept (h : Hall σ τ) (i : Nat) (r : Report) : Prop := ∃ c, h.callers[i]? = some c ∧ c.progress.kept? = some r

theorem hasKept_slot (h : Hall σ τ) (x : Slot σ) (i : Nat) (r : Report) :
    (h.slot k x).HasKept i r ↔ h.meets Progress.ended? x = some (i, r) ∨ h.HasKept i r := by
  by_cases hi : i = x.call
  · subst hi
    cases hc : h.callers[x.call]? with
    | none =>
      rw [slot_none hc]
      simp [HasKept, meets, lapse, hc]
    | some c =>
      have hreports := (k.afterStep_step c.pass c.progress h.desk (h.lapse x.meanwhile).world).reports
      rcases hstep : k.afterStep c.pass c.progress h.desk (h.lapse x.meanwhile).world with ⟨⟨g, d⟩, w⟩
      rw [hstep] at hreports
      have hown := callers_slot_own hc hstep
      rcases hreports with ⟨r', hended, hstored, -⟩ | ⟨hgoing, hkept, -, -⟩
      · obtain rfl : g = .stored r' := hstored
        simp [HasKept, meets, hown, hc, hended, Progress.kept?, Progress.ended?]
      · simp [HasKept, meets, hown, hc, hgoing, hkept]
  · have hother : h.meets Progress.ended? x ≠ some (i, r) := fun hmet => hi (meets_call hmet)
    unfold HasKept
    rw [callers_slot_other hi]
    exact (or_iff_right hother).symm

theorem hasKept_run (h : Hall σ τ) (xs : List (Slot σ)) (i : Nat) (r : Report) :
    (h.run k xs).HasKept i r ↔ (i, r) ∈ h.met Progress.ended? k xs ∨ h.HasKept i r := by
  induction xs generalizing h with
  | nil => exact (or_iff_right List.not_mem_nil).symm
  | cons x xs ih =>
    have hrest := ih (h.slot k x)
    rw [hasKept_slot, ← or_assoc] at hrest
    unfold met
    rw [List.mem_append, Option.mem_toList]
    exact hrest

theorem callers_run {P : Caller → Prop}
    (hstep : ∀ (c : Caller) (d : Desk) (w : World σ τ), P c →
      P { c with progress := (k.afterStep c.pass c.progress d w).1.1 })
    (hall : ∀ c ∈ h.callers, P c) (xs : List (Slot σ)) : ∀ c ∈ (h.run k xs).callers, P c := by
  induction xs generalizing h with
  | nil => exact hall
  | cons x xs ih =>
    refine ih fun c hc => ?_
    cases hx : h.callers[x.call]? with
    | none =>
      rw [slot_none hx] at hc
      exact hall c hc
    | some c' =>
      rw [slot_some hx rfl] at hc
      rcases List.mem_or_eq_of_mem_set hc with hold | rfl
      · exact hall c hold
      · exact hstep c' _ _ (hall c' (List.mem_of_getElem? hx))

/-- Every call reports on its own pass. -/
def Names (h : Hall σ τ) : Prop := ∀ c ∈ h.callers, c.progress.Names c.pass

omit [Timeline τ] [Surroundings σ τ] in
theorem names_opened (ps : List Pass) (reports : List Report) (w : World σ τ) : (opened ps reports w).Names := by
  intro c hc
  obtain ⟨p, -, rfl⟩ := List.mem_map.mp hc
  trivial

theorem Names.run (hnames : h.Names) (xs : List (Slot σ)) : (h.run k xs).Names :=
  callers_run (P := fun c => c.progress.Names c.pass)
    (fun c d w hc => (k.afterStep_step c.pass c.progress d w).names hc) hnames xs

theorem hasKept_opened (ps : List Pass) (reports : List Report) (w : World σ τ) (xs : List (Slot σ)) (i : Nat)
    (r : Report) :
    ((opened ps reports w).run k xs).HasKept i r ↔ (i, r) ∈ (opened ps reports w).met Progress.ended? k xs := by
  have hnone : ¬ (opened ps reports w).HasKept i r := by
    rintro ⟨c, hc, hkept⟩
    obtain ⟨p, -, rfl⟩ := List.mem_map.mp (List.mem_of_getElem? hc)
    cases hkept
  rw [hasKept_run]
  exact or_iff_left hnone

omit [Timeline τ] [Surroundings σ τ] in
theorem hasKept_iff_named (hnames : h.Names) {r : Report} :
    h.HasKept i r ↔ ∃ g, h.callers[i]? = some ⟨r.pass, g⟩ ∧ g.kept? = some r := by
  constructor
  · rintro ⟨⟨p, g⟩, hc, hkept⟩
    obtain rfl : r.pass = p := (hnames _ (List.mem_of_getElem? hc)).kept hkept
    exact ⟨g, hc, hkept⟩
  · rintro ⟨g, hc, hkept⟩
    exact ⟨_, hc, hkept⟩

/-! ### The report of the call that left last -/

/-- The report of the call that is about to leave the pass. -/
def leaving? (h : Hall σ τ) (p : Pass) : Option Report :=
  h.callers.findSome? fun c => if c.pass = p then c.progress.stored? else none

omit [Timeline τ] [Surroundings σ τ] in
/-- While a call is inside its pass, no other is. -/
theorem Orderly.alone (hh : h.Orderly) (hc : h.callers[i]? = some c) (hin : c.progress.isInside = true) {j : Nat}
    {b : Caller} (hj : j ≠ i) (hb : h.callers[j]? = some b) (hpass : b.pass = c.pass) :
    b.progress.isInside = false := by
  have hcount := insiders_set hc .called h.desk h.world c.pass
  have hone : h.insiders c.pass ≤ 1 := by
    rw [hh]
    split_ifs
    · exact Nat.le_refl 1
    · exact Nat.zero_le 1
  have hout : Progress.called.isInside = false := rfl
  simp only [hin, hout, and_true, if_true, Bool.false_eq_true, and_false, if_false] at hcount
  have hothers : (⟨h.world, h.desk, h.callers.set i { c with progress := .called }⟩ : Hall σ τ).insiders c.pass = 0 :=
    by omega
  unfold insiders at hothers
  rw [List.countP_eq_zero] at hothers
  have hmem : b ∈ h.callers.set i { c with progress := .called } := by
    refine List.mem_of_getElem? (i := j) ?_
    rw [List.getElem?_set_ne (Ne.symm hj)]
    exact hb
  simpa [hpass] using hothers b hmem

theorem findSome_sole {α β : Type} {l : List α} {f : α → Option β} {a : α} (ha : l[i]? = some a)
    (hothers : ∀ j b, j ≠ i → l[j]? = some b → f b = none) : l.findSome? f = f a := by
  induction l generalizing i with
  | nil => cases ha
  | cons b l ih =>
    rw [List.findSome?_cons]
    cases i with
    | zero =>
      cases ha
      have hnone : l.findSome? f = none := by
        rw [List.findSome?_eq_none_iff]
        intro c hc
        obtain ⟨j, hj⟩ := List.mem_iff_getElem?.mp hc
        exact hothers (j + 1) c (Nat.succ_ne_zero j) hj
      rw [hnone]
      cases f a <;> rfl
    | succ i =>
      rw [hothers 0 b (Nat.succ_ne_zero i).symm rfl]
      exact ih ha fun j c hj hc => hothers (j + 1) c (fun heq => hj (Nat.succ.inj heq)) hc

theorem findSome_replaced {α β : Type} {l : List α} {f : α → Option β} {a b : α} (ha : l[i]? = some a)
    (hsame : f b = f a) : (l.set i b).findSome? f = l.findSome? f := by
  obtain ⟨hlt, rfl⟩ := List.getElem?_eq_some_iff.mp ha
  have hvalues : (l.set i b).map f = l.map f := by
    rw [List.map_set, hsame, ← List.getElem_map f (h := by rwa [List.length_map]), List.set_getElem_self]
  have hfound := congrArg (List.findSome? id) hvalues
  rw [List.findSome?_map, List.findSome?_map] at hfound
  exact hfound

omit [Timeline τ] [Surroundings σ τ] in
theorem Orderly.leaving_set (hh : h.Orderly) (hc : h.callers[i]? = some c) (hin : c.progress.isInside = true)
    (g : Progress) (d : Desk) (w : World σ τ) :
    (⟨w, d, h.callers.set i { c with progress := g }⟩ : Hall σ τ).leaving? c.pass = g.stored? := by
  obtain ⟨hlt, -⟩ := List.getElem?_eq_some_iff.mp hc
  unfold leaving?
  dsimp only
  rw [findSome_sole (List.getElem?_set_self hlt) fun j b hj hb => ?_, if_pos rfl]
  rw [List.getElem?_set_ne (Ne.symm hj)] at hb
  by_cases hpass : b.pass = c.pass
  · rw [if_pos hpass]
    exact Progress.stored_eq_none (hh.alone hc hin hj hb hpass)
  · exact if_neg hpass

omit [Timeline τ] [Surroundings σ τ] in
theorem Orderly.leaving (hh : h.Orderly) (hc : h.callers[i]? = some c) (hin : c.progress.isInside = true) :
    h.leaving? c.pass = c.progress.stored? := by
  have hset := hh.leaving_set hc hin c.progress h.desk h.world
  obtain ⟨hlt, rfl⟩ := List.getElem?_eq_some_iff.mp hc
  rwa [List.set_getElem_self] at hset

omit [Timeline τ] [Surroundings σ τ] in
theorem leaving_other (hc : h.callers[i]? = some c) {p : Pass}
    (hsame : c.pass = p → g.stored? = c.progress.stored?) (d : Desk) (w : World σ τ) :
    (⟨w, d, h.callers.set i { c with progress := g }⟩ : Hall σ τ).leaving? p = h.leaving? p := by
  refine findSome_replaced hc ?_
  dsimp only
  by_cases hp : c.pass = p
  · rw [if_pos hp, if_pos hp, hsame hp]
  · rw [if_neg hp, if_neg hp]

omit [Timeline τ] [Surroundings σ τ] in
theorem leaving_none {p : Pass} (hno : h.insiders p = 0) : h.leaving? p = none := by
  unfold leaving?
  rw [List.findSome?_eq_none_iff]
  intro c hc
  by_cases hp : c.pass = p
  · rw [if_pos hp]
    refine Progress.stored_eq_none (Bool.eq_false_iff.mpr fun hin => ?_)
    exact List.countP_eq_zero.mp hno c hc (by simp [hp, hin])
  · exact if_neg hp

/-- Between the last call that ended and the last that left there is at most the one that is about to leave. -/
theorem Orderly.leaving_slot (hh : h.Orderly) (hnames : h.Names) (x : Slot σ) (p : Pass) :
    (latest? (h.meets Progress.ended? x).toList p).or (h.leaving? p) =
      ((h.slot k x).leaving? p).or (latest? (h.meets Progress.stored? x).toList p) := by
  unfold meets
  cases hc : h.callers[x.call]? with
  | none =>
    rw [slot_none hc]
    exact (Option.or_none).symm
  | some c =>
    have hreports := (k.afterStep_step c.pass c.progress h.desk (h.lapse x.meanwhile).world).reports
    have hpass := hnames c (List.mem_of_getElem? hc)
    rcases hstep : k.afterStep c.pass c.progress h.desk (h.lapse x.meanwhile).world with ⟨⟨g, d⟩, w⟩
    rw [hstep] at hreports
    rw [slot_some hc hstep, Option.bind_some, Option.bind_some]
    rcases hreports with ⟨r, hended, hstored, -⟩ | ⟨hgoing, -, hpast, -⟩
    · -- the call keeps its report: now it is the one that is about to leave
      obtain rfl : g = .stored r := hstored
      rw [hended] at hpass
      have hown : r.pass = c.pass := hpass
      have hin : c.progress.isInside = true := by
        rw [hended]
        rfl
      rw [hended]
      by_cases hp : c.pass = p
      · subst hp
        rw [hh.leaving_set hc hin]
        simp [latest?, Progress.ended?, Progress.stored?, hown]
      · rw [leaving_other hc fun heq => absurd heq hp]
        simp [latest?, Progress.ended?, Progress.stored?, hown, hp]
    · rw [hgoing]
      cases hleaves : c.progress.stored? with
      | none =>
        rw [leaving_other hc fun _ => hpast.trans hleaves.symm]
        exact (Option.or_none).symm
      | some r =>
        -- the call leaves: it was the one about to, and nobody else is inside
        have hat := Progress.stored_eq_some hleaves
        rw [hat] at hpass
        have hown : r.pass = c.pass := hpass
        have hin : c.progress.isInside = true := by
          rw [hat]
          rfl
        by_cases hp : c.pass = p
        · subst hp
          rw [hh.leaving_set hc hin, hh.leaving hc hin, hleaves, show g.stored? = none from hpast]
          simp [latest?, hown]
        · rw [leaving_other hc fun heq => absurd heq hp]
          simp [latest?, hown, hp]

theorem Orderly.leaving_run (hh : h.Orderly) (hnames : h.Names) (xs : List (Slot σ)) (p : Pass) :
    (latest? (h.met Progress.ended? k xs) p).or (h.leaving? p) =
      ((h.run k xs).leaving? p).or (latest? (h.met Progress.stored? k xs) p) := by
  induction xs generalizing h with
  | nil => exact (Option.or_none).symm
  | cons x xs ih =>
    have hrest := ih (hh.slot (k := k) x) (hnames.run [x])
    unfold met
    rw [latest_append, latest_append, Option.or_assoc, hh.leaving_slot hnames, ← Option.or_assoc, hrest,
      Option.or_assoc]
    rfl

/-! ### Calls that start, and calls that end -/

/-- A call that starts is admitted if nobody is inside its pass; otherwise it is refused, and nothing else happens. -/
theorem Orderly.slot_called (hh : h.Orderly) {p : Pass} (hc : h.callers[x.call]? = some ⟨p, .called⟩) :
    h.slot k x =
      if h.insiders p = 0 then
        ⟨(h.lapse x.meanwhile).world, h.desk.take p, h.callers.set x.call ⟨p, .admitted⟩⟩
      else ⟨(h.lapse x.meanwhile).world, h.desk, h.callers.set x.call ⟨p, .refused (Report.busy p)⟩⟩ := by
  have hcount := hh p
  cases hrunning : h.desk.isRunning p with
  | true =>
    rw [hrunning, if_pos rfl] at hcount
    rw [slot_some hc (Keeper.afterStep_busy hrunning), if_neg (by omega)]
  | false =>
    rw [hrunning, if_neg Bool.false_ne_true] at hcount
    rw [slot_some hc (Keeper.afterStep_free hrunning), if_pos hcount]

/-- The calls after the first turns of an endless schedule. -/
def after (k : Keeper τ) (h : Hall σ τ) (f : Nat → Slot σ) (n : Nat) : Hall σ τ := h.run k ((List.range n).map f)

theorem after_succ (k : Keeper τ) (h : Hall σ τ) (f : Nat → Slot σ) (n : Nat) :
    h.after k f (n + 1) = (h.after k f n).slot k (f n) := by
  unfold after run
  rw [List.range_succ, List.map_append, List.foldl_append]
  rfl

section Fair

variable {f : Nat → Slot σ} (hfair : ∀ m, ∃ n, m ≤ n ∧ (f n).call = i)

include hfair

theorem next_turn (k : Keeper τ) (h : Hall σ τ) (m : Nat) :
    ∃ n, (f n).call = i ∧ (h.after k f n).callers[i]? = (h.after k f m).callers[i]? := by
  obtain ⟨n, hmn, hn⟩ := hfair m
  obtain ⟨j, rfl⟩ := Nat.exists_eq_add_of_le hmn
  clear hmn
  -- by induction on how far away that turn of the call is, which need not be its next one
  induction j generalizing m with
  | zero => exact ⟨m, hn, rfl⟩
  | succ j ih =>
    by_cases hown : (f m).call = i
    · exact ⟨m, hown, rfl⟩
    · obtain ⟨n, hturn, hsame⟩ := ih (m + 1) (Nat.succ_add_eq_add_succ m j ▸ hn)
      rw [after_succ k h f m, callers_slot_other (Ne.symm hown)] at hsame
      exact ⟨n, hturn, hsame⟩

theorem step_taken (k : Keeper τ) {m : Nat} {p : Pass} (hc : (h.after k f m).callers[i]? = some ⟨p, g⟩) :
    ∃ (n : Nat) (d : Desk) (w : World σ τ),
      (h.after k f n).callers[i]? = some ⟨p, (k.afterStep p g d w).1.1⟩ := by
  obtain ⟨n, hturn, hsame⟩ := next_turn hfair k h m
  rw [hc] at hsame
  refine ⟨n + 1, (h.after k f n).desk, ((h.after k f n).lapse (f n).meanwhile).world, ?_⟩
  rw [after_succ, ← hturn]
  rw [← hturn] at hsame
  exact callers_slot_own hsame rfl

theorem returned_of_rest (k : Keeper τ) {m j : Nat} {p : Pass} (hc : (h.after k f m).callers[i]? = some ⟨p, g⟩)
    (hadmitted : g.isAdmitted = true) (hrest : g.rest? = some j) :
    ∃ n r, (h.after k f n).callers[i]? = some ⟨p, .returned r⟩ := by
  induction j generalizing m g with
  | zero =>
    obtain ⟨r, rfl | rfl⟩ := Progress.over_eq hrest
    · cases hadmitted
    · exact ⟨m, r, hc⟩
  | succ j ih =>
    obtain ⟨n, d, w, htaken⟩ := step_taken hfair k hc
    have hstep := k.afterStep_step p g d w
    exact ih htaken (hstep.admitted hadmitted) (hstep.rest hrest)

/-- A call that was admitted and always gets a turn again returns some time. -/
theorem returned_of_admitted (k : Keeper τ) {m : Nat} {p : Pass} (hc : (h.after k f m).callers[i]? = some ⟨p, g⟩)
    (hadmitted : g.isAdmitted = true) : ∃ n r, (h.after k f n).callers[i]? = some ⟨p, .returned r⟩ := by
  cases g with
  | called | refused r => cases hadmitted
  | admitted =>
    -- how many steps are left is known after the next one
    obtain ⟨n, d, w, htaken⟩ := step_taken hfair k hc
    have hstep := k.afterStep_step p .admitted d w
    obtain ⟨j, hj⟩ := hstep.listed
    exact returned_of_rest hfair k htaken (hstep.admitted rfl) hj
  | looping r left | ended r | stored r | released r | returned r => exact returned_of_rest hfair k hc rfl rfl

/-- A call that always gets a turn again returns, or is refused. -/
theorem over_of_fair (k : Keeper τ) {m : Nat} {p : Pass} (hc : (h.after k f m).callers[i]? = some ⟨p, g⟩) :
    ∃ n r, (h.after k f n).callers[i]? = some ⟨p, .returned r⟩ ∨
      g.isAdmitted = false ∧ (h.after k f n).callers[i]? = some ⟨p, .refused r⟩ := by
  cases g with
  | called =>
    obtain ⟨n, d, w, htaken⟩ := step_taken hfair k hc
    rcases (k.afterStep_step p .called d w).called with hstep | hstep
    · rw [hstep] at htaken
      exact ⟨n, _, Or.inr ⟨rfl, htaken⟩⟩
    · rw [hstep] at htaken
      obtain ⟨n', r, hreturned⟩ := returned_of_admitted hfair k htaken rfl
      exact ⟨n', r, Or.inl hreturned⟩
  | refused r => exact ⟨m, r, Or.inr ⟨rfl, hc⟩⟩
  | admitted | looping r left | ended r | stored r | released r | returned r =>
    obtain ⟨n, r, hreturned⟩ := returned_of_admitted hfair k hc rfl
    exact ⟨n, r, Or.inl hreturned⟩

end Fair

/-! ### Calls that nothing interrupts -/

theorem run_alone (k : Keeper τ) {p : Pass} (hc : h.callers[i]? = some ⟨p, g⟩) (n : Nat) :
    h.run k (List.replicate n ⟨i, id⟩) =
      ⟨(k.afterSteps p n g h.desk h.world).2, (k.afterSteps p n g h.desk h.world).1.2,
        h.callers.set i ⟨p, (k.afterSteps p n g h.desk h.world).1.1⟩⟩ := by
  induction n generalizing h g with
  | zero =>
    obtain ⟨hlt, hget⟩ := List.getElem?_eq_some_iff.mp hc
    have hself : h.callers.set i ⟨p, g⟩ = h.callers := by rw [← hget, List.set_getElem_self]
    unfold Keeper.afterSteps
    rw [hself]
    rfl
  | succ n ih =>
    rcases hstep : k.afterStep p g h.desk h.world with ⟨⟨g', d⟩, w⟩
    have hslot : h.slot k ⟨i, id⟩ = ⟨w, d, h.callers.set i ⟨p, g'⟩⟩ := slot_some (x := ⟨i, id⟩) hc hstep
    have hown : (h.slot k ⟨i, id⟩).callers[i]? = some ⟨p, g'⟩ := callers_slot_own (x := ⟨i, id⟩) hc hstep
    have hrest := ih hown
    rw [hslot] at hrest
    rw [List.set_set] at hrest
    unfold Keeper.afterSteps
    rw [hstep, List.replicate_succ]
    show (h.slot k ⟨i, id⟩).run k (List.replicate n ⟨i, id⟩) = _
    rw [hslot]
    exact hrest

/-- A call that nothing interrupts does what the pass does. -/
theorem uninterrupted (k : Keeper τ) {p : Pass} {r : Report} (hc : h.callers[i]? = some ⟨p, .called⟩)
    (hrun : ((k.runPass p).run h.desk).on h.world = ((r, d), w)) :
    ∃ n, h.run k (List.replicate n ⟨i, id⟩) =
      ⟨w, d, h.callers.set i ⟨p, if h.desk.isRunning p then .refused r else .returned r⟩⟩ := by
  obtain ⟨n, hn⟩ := k.afterSteps_called p h.desk h.world hrun
  refine ⟨n, ?_⟩
  rw [run_alone k hc, hn]

/-! ## One run per pass -/

/-- **One run per pass.** Calls for passes are made at any time and take their steps in any order, while anything
happens outside. A pass has at most one call inside, and is marked as running exactly then. A call that starts is
admitted unless another is inside the same pass; otherwise it is refused, does nothing, and reports just that. A call
that always gets a turn again returns some time, unless it was refused, and then it is outside. The last report of a
pass is that of the call that kept its own last, which is the one that left last unless a call is still inside; a
refused call keeps none. A call that nothing interrupts is a whole pass. -/
theorem one_run_per_pass (k : Keeper τ) (ps : List Pass) (reports : List Report) (w : World σ τ)
    (xs : List (Slot σ)) :
    let start := opened ps reports w
    let h := start.run k xs
    (∀ p, h.insiders p ≤ 1 ∧ (h.desk.isRunning p = true ↔ h.insiders p = 1)) ∧
    (∀ (x : Slot σ) (p : Pass), h.callers[x.call]? = some ⟨p, .called⟩ →
      (h.insiders p = 0 → h.slot k x =
        ⟨(h.lapse x.meanwhile).world, h.desk.take p, h.callers.set x.call ⟨p, .admitted⟩⟩) ∧
      (h.insiders p ≠ 0 → h.slot k x =
        ⟨(h.lapse x.meanwhile).world, h.desk, h.callers.set x.call ⟨p, .refused (Report.busy p)⟩⟩)) ∧
    (∀ (x : Slot σ) (p : Pass) (r : Report), h.callers[x.call]? = some ⟨p, .refused r⟩ →
      r = ⟨p, 0, 0, 0, 0, .zero, some "already running"⟩ ∧ r.json.field "finished" = .bool true ∧
        (h.slot k x).desk = h.desk ∧ (h.slot k x).world = (h.lapse x.meanwhile).world) ∧
    (∀ (f : Nat → Slot σ) (i : Nat) (p : Pass) (g : Progress), (∀ m, ∃ n, m ≤ n ∧ (f n).call = i) →
      h.callers[i]? = some ⟨p, g⟩ →
        ∃ n r, (h.after k f n).callers[i]? = some ⟨p, .returned r⟩ ∨
          g.isAdmitted = false ∧ (h.after k f n).callers[i]? = some ⟨p, .refused r⟩) ∧
    (∀ p, h.desk.report? p =
      (latest? (start.met Progress.ended? k xs) p).or (reports.find? (·.pass == p))) ∧
    (∀ p, h.insiders p = 0 →
      latest? (start.met Progress.ended? k xs) p = latest? (start.met Progress.stored? k xs) p) ∧
    (∀ (i : Nat) (r : Report), (i, r) ∈ start.met Progress.ended? k xs ↔
      ∃ g, h.callers[i]? = some ⟨r.pass, g⟩ ∧ g.kept? = some r) ∧
    (∀ (i : Nat) (p : Pass) (r : Report) (d : Desk) (v : World σ τ), h.callers[i]? = some ⟨p, .called⟩ →
      ((k.runPass p).run h.desk).on h.world = ((r, d), v) →
        ∃ n, h.run k (List.replicate n ⟨i, id⟩) =
          ⟨v, d, h.callers.set i ⟨p, if h.desk.isRunning p then .refused r else .returned r⟩⟩) := by
  intro start h
  have hstart : start.Orderly := orderly_opened ps reports w
  have hnamed : start.Names := names_opened ps reports w
  have horderly : h.Orderly := hstart.run xs
  have hnames : h.Names := hnamed.run xs
  refine ⟨fun p => ?_, fun x p hc => ⟨fun hno => ?_, fun hsome => ?_⟩, fun x p r hc => ?_,
    fun f i p g hfair hc => over_of_fair hfair k (m := 0) hc, report_run start xs, fun p hno => ?_, fun i r => ?_,
    fun i p r d v hc hrun => uninterrupted k hc hrun⟩
  · rw [horderly p]
    cases h.desk.isRunning p <;> simp
  · rw [horderly.slot_called hc, if_pos hno]
  · rw [horderly.slot_called hc, if_neg hsome]
  · obtain rfl : r = Report.busy p := hnames _ (List.mem_of_getElem? hc)
    rw [slot_some hc (Keeper.afterStep_refused _)]
    exact ⟨rfl, rfl, rfl, rfl⟩
  · have hleft := hstart.leaving_run (k := k) hnamed xs p
    rw [leaving_none hno, leaving_none (h := start) (by rw [hstart]; rfl), Option.or_none] at hleft
    exact hleft
  · rw [← hasKept_opened, hasKept_iff_named hnames]

/-- Of two calls for a pass that start while a third is for another pass, the second is refused and the third is not;
the first returns. -/
theorem one_run_per_pass_twice :
    let k := Keeper.confirming
    let h := (opened [.new, .new, .active] [] (Rehearsal.world .plain)).run k [⟨0, id⟩]
    h.slot k ⟨1, id⟩ = ⟨h.world, h.desk, h.callers.set 1 ⟨.new, .refused (Report.busy .new)⟩⟩ ∧
      h.slot k ⟨2, id⟩ = ⟨h.world, h.desk.take .active, h.callers.set 2 ⟨.active, .admitted⟩⟩ ∧
      ∃ n r, (h.after k (fun _ => ⟨0, id⟩) n).callers[0]? = some ⟨.new, .returned r⟩ := by
  intro k h
  obtain ⟨-, hstarts, -, hends, -, -, -, -⟩ :=
    one_run_per_pass k [.new, .new, .active] [] (Rehearsal.world .plain) [⟨0, id⟩]
  obtain ⟨n, r, hreturned | ⟨houtside, -⟩⟩ :=
    hends (fun _ => ⟨0, id⟩) 0 .new .admitted (fun m => ⟨m, Nat.le_refl m, rfl⟩) rfl
  · exact ⟨(hstarts ⟨1, id⟩ .new rfl).2 (by decide), (hstarts ⟨2, id⟩ .active rfl).1 (by decide), n, r, hreturned⟩
  · cases houtside

end Hall

end SessionKeeper

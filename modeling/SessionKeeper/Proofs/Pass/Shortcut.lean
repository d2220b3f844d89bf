import Mathlib.Data.List.Nodup
import SessionKeeper.Proofs.Pass.Owned

/-!
# When records need not be asked about

Where workspaces that are known by the beginning of their names need a record, the records are asked about only if
there is such a workspace. That is found out by counting ids, and what carries the whole id is then told by ids too.
As long as no two listed workspaces have one id, this comes to the rule itself.

* `Keeper.allExplicit_iff`, `Keeper.sharesExplicitId_iff` : what the counting and the ids tell.
* `Keeper.CountsByRule`, `Keeper.Selects` : which workspaces count for a session by the rule.
* `Keeper.selects_all`, `Keeper.selects_filter` : what either way selects.
* `Keeper.Confirms`, `Keeper.owned_by_rule` : how the workspaces of a session are found.
-/

namespace SessionKeeper

variable {σ τ : Type}

/-! ## Repetitions -/

theorem length_eraseDups_le {α : Type} [BEq α] : ∀ xs : List α, xs.eraseDups.length ≤ xs.length
  | [] => Nat.zero_le _
  | x :: xs => by
    have hfilter : (xs.filter fun y => !y == x).length ≤ xs.length := List.length_filter_le _ xs
    have hrest := length_eraseDups_le (xs.filter fun y => !y == x)
    rw [List.eraseDups_cons, List.length_cons, List.length_cons]
    omega
termination_by xs => xs.length
decreasing_by exact Nat.lt_succ_of_le (List.length_filter_le _ xs)

theorem eraseDups_of_nodup {α : Type} [BEq α] [LawfulBEq α] {xs : List α} (h : xs.Nodup) : xs.eraseDups = xs := by
  induction xs with
  | nil => rfl
  | cons x xs ih =>
    obtain ⟨hx, hxs⟩ := List.nodup_cons.mp h
    have hother : (xs.filter fun y => !y == x) = xs := by
      refine List.filter_eq_self.mpr fun y hy => ?_
      have hne : y ≠ x := fun heq => hx (heq ▸ hy)
      rw [beq_false_of_ne hne, Bool.not_false]
    rw [List.eraseDups_cons, hother, ih hxs]

namespace Keeper

variable {s : Session} {ws : List Workspace} {x : Workspace} {rs : List WorkspaceRecord}

/-! ## Whole ids -/

theorem isExplicit_of_allExplicit (h : allExplicit s ws = true) : ∀ y ∈ ws, isExplicit s y = true := by
  unfold allExplicit at h
  have hids := length_eraseDups_le ((ws.filter (isExplicit s)).map (·.id))
  have hsome : (ws.filter (isExplicit s)).length ≤ ws.length := List.length_filter_le _ ws
  rw [beq_iff_eq.mp h, List.length_map] at hids
  exact List.length_filter_eq_length_iff.mp (Nat.le_antisymm hsome hids)

theorem sharesExplicitId_of_isExplicit (hx : x ∈ ws) (h : isExplicit s x = true) : sharesExplicitId s ws x = true :=
  List.any_eq_true.mpr ⟨x, hx, by rw [h, beq_self_eq_true, Bool.and_true]⟩

section

variable (hids : (ws.map (·.id)).Nodup)

include hids

theorem allExplicit_iff : allExplicit s ws = true ↔ ∀ y ∈ ws, isExplicit s y = true := by
  refine ⟨isExplicit_of_allExplicit, fun h => ?_⟩
  unfold allExplicit
  rw [List.filter_eq_self.mpr h, eraseDups_of_nodup hids, List.length_map, beq_self_eq_true]

theorem sharesExplicitId_iff (hx : x ∈ ws) : sharesExplicitId s ws x = true ↔ isExplicit s x = true := by
  refine ⟨fun h => ?_, sharesExplicitId_of_isExplicit hx⟩
  obtain ⟨y, hy, hboth⟩ := List.any_eq_true.mp h
  rw [Bool.and_eq_true, beq_iff_eq] at hboth
  obtain rfl : y = x := List.inj_on_of_nodup_map hids hy hx hboth.2
  exact hboth.1

end

/-! ## The rule -/

/-- The name of the workspace or of its template carries the whole id of the session, or a record has its name, or a
record has its id and that is not empty. -/
def CountsByRule (s : Session) (rs : List WorkspaceRecord) (x : Workspace) : Prop :=
  isExplicit s x = true ∨ (∃ r ∈ rs, r.name = x.name) ∨ ∃ r ∈ rs, r.workspaceId = some x.id ∧ x.id ≠ ""

theorem isRecorded_iff :
    isRecorded rs x = true ↔ (∃ r ∈ rs, r.name = x.name) ∨ ∃ r ∈ rs, r.workspaceId = some x.id ∧ x.id ≠ "" := by
  have hid (r : WorkspaceRecord) : (r.workspaceId.any fun id => !id.isEmpty && id == x.id) = true ↔
      r.workspaceId = some x.id ∧ x.id ≠ "" := by
    cases r.workspaceId with
    | none => simp
    | some id =>
      simp only [Option.any_some, Bool.and_eq_true, Bool.not_eq_true', beq_iff_eq, Option.some.injEq]
      constructor
      · rintro ⟨hfilled, rfl⟩
        exact ⟨rfl, by simpa using hfilled⟩
      · rintro ⟨rfl, hfilled⟩
        exact ⟨by simpa using hfilled, rfl⟩
  unfold isRecorded
  simp only [List.any_eq_true, Bool.or_eq_true, beq_iff_eq, hid]
  constructor
  · rintro ⟨r, hr, hname | hrecord⟩
    · exact Or.inl ⟨r, hr, hname⟩
    · exact Or.inr ⟨r, hr, hrecord⟩
  · rintro (⟨r, hr, hname⟩ | ⟨r, hr, hrecord⟩)
    · exact ⟨r, hr, Or.inl hname⟩
    · exact ⟨r, hr, Or.inr hrecord⟩

/-- Of the listed workspaces those are selected that count by the rule, each once and in the order of the list. -/
structure Selects (s : Session) (rs : List WorkspaceRecord) (ws owned : List Workspace) : Prop where
  ordered : owned.Sublist ws
  once : owned.Nodup
  mem_iff : ∀ x, x ∈ owned ↔ x ∈ ws ∧ CountsByRule s rs x

section

variable (hids : (ws.map (·.id)).Nodup)

include hids

theorem selects_all (hall : ∀ y ∈ ws, isExplicit s y = true) (rs : List WorkspaceRecord) : Selects s rs ws ws where
  ordered := List.Sublist.refl ws
  once := List.Nodup.of_map _ hids
  mem_iff y := (and_iff_left_of_imp fun hy => Or.inl (hall y hy)).symm

theorem selects_filter (rs : List WorkspaceRecord) :
    Selects s rs ws (ws.filter fun y => sharesExplicitId s ws y || isRecorded rs y) where
  ordered := List.filter_sublist
  once := (List.Nodup.of_map _ hids).filter _
  mem_iff y := by
    rw [List.mem_filter, Bool.or_eq_true, isRecorded_iff, CountsByRule]
    exact and_congr_right fun hy => or_congr_left (sharesExplicitId_iff hids hy)

end

end Keeper

/-! ## Asking about records -/

variable [Surroundings σ τ]

def Registry.recordsCall (r : Registry τ) (sessionId : String) : Call where
  method := "GET"
  address := r.root ++ "/workspaces"
  operation := recordsOperation
  params := some [("sessionId", .text sessionId)]

theorem Registry.records_journal {r : Registry τ} {id : String} {q : Request}
    (h : (r.recordsCall id).request = .ok q) (w : World σ τ) :
    ∃ x, ((r.records id).on w).2.journal = .sent q x :: w.journal := by
  obtain ⟨x, v, hjournal, hsend⟩ := Call.send_on h w
  refine ⟨x, ?_⟩
  have hfetch : ((r.recordsCall id).fetch.on w).2 = v := by
    unfold Call.fetch
    rw [Act.on_bind, hsend]
    cases x.outcome q.url (r.recordsCall id).operation with
    | error e => rfl
    | ok reply => rfl
  have hrecords : ((r.records id).on w).2 = ((r.recordsCall id).fetch.on w).2 := by
    unfold records recordsCall
    rw [Act.on_bind]
    rcases (Call.fetch _ : Act σ τ Json).on w with ⟨e | data, u⟩
    · rfl
    · rfl
  rw [hrecords, hfetch, hjournal]

namespace Keeper

variable {k : Keeper τ} {s : Session} {all ws : List Workspace} {w v : World σ τ}

theorem exists_candidates (hlist : (k.provider.workspacesOf s.id).on w = (.ok ws, v)) :
    ∃ all, k.provider.workspaces.on w = (.ok all, v) ∧ candidates s all = ws := by
  obtain ⟨all, u, hall, hfilter⟩ := Act.on_bind_ok hlist
  rw [Act.on_pure] at hfilter
  cases hfilter
  exact ⟨all, hall, rfl⟩

variable [Timeline τ]

/-- How the workspaces of a session are found where records are asked about, once `ws` were listed for it and the
world is `v`. To ask about records with a call that cannot be written sends nothing, and fails. -/
structure Confirms (k : Keeper τ) (s : Session) (ws : List Workspace) (w v : World σ τ) : Prop where
  asked_iff : ∀ q, (k.registry.recordsCall s.id).request = .ok q →
    ((∃ x, ((k.owned s).on w).2.journal = .sent q x :: v.journal) ↔ ∃ y ∈ ws, isExplicit s y = false)
  skipped : (∀ y ∈ ws, isExplicit s y = true) →
    (k.owned s).on w = (.ok ws, v) ∧ ∀ rs, Selects s rs ws ws
  found : (∃ y ∈ ws, isExplicit s y = false) → ∀ rs z, (k.registry.records s.id).on v = (.ok rs, z) →
    ∃ owned, (k.owned s).on w = (.ok owned, z) ∧ Selects s rs ws owned
  failed : (∃ y ∈ ws, isExplicit s y = false) → ∀ e z, (k.registry.records s.id).on v = (.error e, z) →
    (k.owned s).on w = (.error e, z) ∧ ∀ p c, (k.handle p s).on c w = ((.error e, c), z)

theorem confirms_of_listed (hconfirms : k.confirms = true) (hlist : k.provider.workspaces.on w = (.ok all, v))
    (hids : ((candidates s all).map (·.id)).Nodup) : k.Confirms s (candidates s all) w v := by
  have hsettled : k.isSettled s all = true ↔ ∀ y ∈ candidates s all, isExplicit s y = true := by
    rw [← allExplicit_iff hids, isSettled, hconfirms, Bool.not_true, Bool.false_or]
  have hunsettled : k.isSettled s all = false ↔ ∃ y ∈ candidates s all, isExplicit s y = false := by
    rw [← Bool.not_eq_true, hsettled]
    push Not
    simp only [Bool.not_eq_true]
  refine ⟨fun q hq => ⟨?asked, ?asks⟩, fun hall => ?skipped, fun hsome rs z hrecords => ?found,
    fun hsome e z hrecords => ?failed⟩
  case asked =>
    rintro ⟨x, hjournal⟩
    rw [← hunsettled, ← Bool.not_eq_true]
    intro hdone
    rw [owned_settled hlist hdone] at hjournal
    exact absurd (congrArg List.length hjournal) (by simp)
  case asks =>
    intro hsome
    obtain ⟨x, hjournal⟩ := Registry.records_journal hq v
    refine ⟨x, ?_⟩
    rcases hrecords : (k.registry.records s.id).on v with ⟨e | rs, z⟩
    · rw [hrecords] at hjournal
      rw [owned_unconfirmed hlist (hunsettled.mpr hsome) hrecords, hjournal]
    · rw [hrecords] at hjournal
      rw [owned_confirmed hlist (hunsettled.mpr hsome) hrecords, hjournal]
  case skipped => exact ⟨owned_settled hlist (hsettled.mpr hall), selects_all hids hall⟩
  case found => exact ⟨_, owned_confirmed hlist (hunsettled.mpr hsome) hrecords, selects_filter hids rs⟩
  case failed =>
    have hread := owned_unconfirmed hlist (hunsettled.mpr hsome) hrecords
    exact ⟨hread, handle_unread hread⟩

/-- **The shortcut agrees with the rule.** Where records are not asked about, all listed workspaces count for the
session. Where they are, and no two listed workspaces have one id, those count that carry the whole id of the session
or that a record names, each once and in the order of the list. The records are asked about if and only if a listed
workspace does not carry the whole id; if they are not, whatever they hold would make no difference; and if they cannot
be read, the session is not handled. -/
theorem owned_by_rule (hlist : (k.provider.workspacesOf s.id).on w = (.ok ws, v)) :
    (k.confirms = false → (k.owned s).on w = (.ok ws, v)) ∧
    (k.confirms = true → (ws.map (·.id)).Nodup → k.Confirms s ws w v) := by
  obtain ⟨all, hall, rfl⟩ := exists_candidates hlist
  refine ⟨fun hconfirms => owned_settled hall ?_, fun hconfirms hids => confirms_of_listed hconfirms hall hids⟩
  rw [isSettled, hconfirms, Bool.not_false, Bool.true_or]

end Keeper

/-- Four workspaces are listed for a session: one with its whole id, one with a record of its name, one with a record of
its id, and one that belongs to another session. -/
def Rehearsal.variously : Rehearsal :=
  let listed (id name : String) : Json := .object [("id", .text id), ("name", .text name)]
  { plain with
    routes := [
      ("GET /api/v2/workspaces", [answer 200 (.list [listed "u" "old-0fcfba18-b832",
        listed "v" "ws-0fcfba18-alpha-0001", listed "w" "ws-0fcfba18-alpha-0002",
        listed "x" "ws-0fcfba18-beta-0003"])]),
      ("GET /api/v1/workspaces", [answer 200 (.list [listed "r" "ws-0fcfba18-alpha-0001",
        .object [("id", .text "q"), ("coderWorkspaceId", .text "w")]])]),
      ("*", [answer 200 .null])] }

theorem Keeper.owned_by_rule_variously :
    let k := Keeper.confirming
    let s := Session.rehearsed "0fcfba18-b832"
    ∃ ws v rs z owned, (k.provider.workspacesOf s.id).on Rehearsal.variously.world = (.ok ws, v) ∧
      k.confirms = true ∧ (ws.map (·.id)).Nodup ∧ (k.registry.records s.id).on v = (.ok rs, z) ∧
      (k.owned s).on Rehearsal.variously.world = (.ok owned, z) ∧ Selects s rs ws owned ∧
      ws.map (·.id) = ["u", "v", "w", "x"] ∧ owned.map (·.id) = ["u", "v", "w"] := by
  intro k s
  have hlisted : (k.provider.workspacesOf s.id).Returns Rehearsal.variously.world fun ws v =>
      ws.map (·.id) = ["u", "v", "w", "x"] ∧ (∃ y ∈ ws, isExplicit s y = false) ∧
        (k.registry.records s.id).Returns v fun _ _ =>
          (k.owned s).Returns Rehearsal.variously.world fun owned _ => owned.map (·.id) = ["u", "v", "w"] := by
    decide +kernel
  obtain ⟨ws, v, hlist, hws, hsome, hrecords⟩ := hlisted.exists_on
  obtain ⟨rs, z, hrecords, hread⟩ := hrecords.exists_on
  obtain ⟨owned, z', hread, howned⟩ := hread.exists_on
  have hids : (ws.map (·.id)).Nodup := by rw [hws]; decide
  obtain ⟨selected, hselected, hselects⟩ := ((owned_by_rule hlist).2 rfl hids).found hsome rs z hrecords
  obtain ⟨hsame, rfl⟩ : (.ok selected : Except Fault (List Workspace)) = .ok owned ∧ z = z' :=
    Prod.ext_iff.mp (hselected.symm.trans hread)
  obtain rfl : selected = owned := Except.ok.inj hsame
  exact ⟨ws, v, rs, z, selected, hlist, rfl, hids, hrecords, hselected, hselects, hws, howned⟩

end SessionKeeper

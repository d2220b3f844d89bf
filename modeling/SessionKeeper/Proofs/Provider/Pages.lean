import Mathlib.Data.List.Forall2
import SessionKeeper.Proofs.Pass.Run
import SessionKeeper.Proofs.Provider.Talk

/-!
# The list of workspaces, page by page

The provider may spread its workspaces over pages. However it does so, every page is asked for once, and what is read
is the same as from a single list.

* `Leaf`, `Leaf.Split` : a page of the list, and the ways to spread a list that the provider may choose.
* `Provider.Delivers`, `Provider.Serves` : the provider answers with a value; it serves the pages one after the other.
* `Provider.itemsFrom_serves` : what is collected from the pages that are left.
* `Provider.workspaces_paged` : the requests and the outcome for a list that is spread over pages.
-/

namespace SessionKeeper

variable {σ τ : Type}

/-! ## Equality of values -/

deriving instance DecidableEq for Number

namespace Json

mutual

def decEq : (a b : Json) → Decidable (a = b)
  | null, null => isTrue rfl
  | bool a, bool b => decidable_of_iff (a = b) (by simp)
  | number a, number b => decidable_of_iff (a = b) (by simp)
  | text a, text b => decidable_of_iff (a = b) (by simp)
  | list a, list b => @decidable_of_iff _ (a = b) (by simp) (decEqItems a b)
  | object a, object b => @decidable_of_iff _ (a = b) (by simp) (decEqFields a b)
  | null, bool _ | null, number _ | null, text _ | null, list _ | null, object _ => isFalse nofun
  | bool _, null | bool _, number _ | bool _, text _ | bool _, list _ | bool _, object _ => isFalse nofun
  | number _, null | number _, bool _ | number _, text _ | number _, list _ | number _, object _ => isFalse nofun
  | text _, null | text _, bool _ | text _, number _ | text _, list _ | text _, object _ => isFalse nofun
  | list _, null | list _, bool _ | list _, number _ | list _, text _ | list _, object _ => isFalse nofun
  | object _, null | object _, bool _ | object _, number _ | object _, text _ | object _, list _ => isFalse nofun

def decEqItems : (as bs : List Json) → Decidable (as = bs)
  | [], [] => isTrue rfl
  | a :: as, b :: bs =>
    have := decEq a b
    have := decEqItems as bs
    decidable_of_iff (a = b ∧ as = bs) (by simp)
  | [], _ :: _ | _ :: _, [] => isFalse nofun

def decEqFields : (as bs : List (String × Json)) → Decidable (as = bs)
  | [], [] => isTrue rfl
  | (k, a) :: as, (l, b) :: bs =>
    have := decEq a b
    have := decEqFields as bs
    decidable_of_iff ((k = l ∧ a = b) ∧ as = bs) (by simp)
  | [], _ :: _ | _ :: _, [] => isFalse nofun

end

instance : DecidableEq Json := decEq

end Json

/-! ## Reading a page -/

theorem Provider.readPage_object {fields : Fields} {items : List Json} {count cursor : Json}
    (hitems : (Json.object fields).field "workspaces" = .list items)
    (hcount : (Json.object fields).field "count" = count) (hcursor : (Json.object fields).field "after_id" = cursor) :
    readPage (.object fields) = .ok ⟨items, count, cursor⟩ := by
  have hlist : (Json.list items).orElse (.list []) = .list items := by cases items <;> rfl
  unfold readPage
  dsimp only
  rw [hitems, hlist, hcount, hcursor]

/-! ## Lists spread over pages -/

/-- A page of a list: its items, and the cursor of the next page. -/
structure Leaf where
  items : List Json
  cursor : Json

namespace Leaf

/-- A value that the provider may send for a page, where it has `total` items in all. -/
def Fits (leaf : Leaf) (total : Nat) : Json → Prop
  | .object fields =>
    (Json.object fields).field "workspaces" = .list leaf.items ∧
      (Json.object fields).field "count" = .number (.integer total) ∧
      (Json.object fields).field "after_id" = leaf.cursor
  | _ => False

instance (leaf : Leaf) (total : Nat) (data : Json) : Decidable (leaf.Fits total data) := by
  cases data <;> unfold Fits <;> infer_instance

def page (leaf : Leaf) (total : Nat) : Provider.Page := ⟨leaf.items, .number (.integer total), leaf.cursor⟩

def all (leaves : List Leaf) : List Json := leaves.flatMap (·.items)

/-- The cursors that lead from one page to the next. -/
def cursors (leaves : List Leaf) : List Json := leaves.dropLast.map (·.cursor)

/-- The pages of a list of `total` items: no more than are fetched, none empty unless it is the only one, and all but
the last with a cursor of their own. -/
structure Split (total : Nat) (leaves : List Leaf) : Prop where
  nonempty : leaves ≠ []
  few : leaves.length ≤ Provider.maxPages
  filled : 1 < leaves.length → ∀ leaf ∈ leaves, leaf.items ≠ []
  lead : ∀ cursor ∈ cursors leaves, ∃ s, s ≠ "" ∧ cursor = .text s
  distinct : (cursors leaves).Nodup
  total : (all leaves).length = total

@[simp] theorem all_nil : all [] = [] := rfl

@[simp] theorem all_cons (leaf : Leaf) (rest : List Leaf) : all (leaf :: rest) = leaf.items ++ all rest := rfl

@[simp] theorem cursors_singleton (leaf : Leaf) : cursors [leaf] = [] := rfl

@[simp] theorem cursors_cons (leaf next : Leaf) (rest : List Leaf) :
    cursors (leaf :: next :: rest) = leaf.cursor :: cursors (next :: rest) := rfl

@[simp] theorem items_page (leaf : Leaf) (total : Nat) : (leaf.page total).items = leaf.items := rfl

@[simp] theorem cursor_page (leaf : Leaf) (total : Nat) : (leaf.page total).cursor = leaf.cursor := rfl

theorem Fits.readPage_eq {leaf : Leaf} {total : Nat} {data : Json} (h : leaf.Fits total data) :
    Provider.readPage data = .ok (leaf.page total) := by
  cases data with
  | object fields =>
    obtain ⟨hitems, hcount, hcursor⟩ := h
    exact Provider.readPage_object hitems hcount hcursor
  | _ => cases h

end Leaf

namespace Provider

open Leaf

theorem sameCursor_text {s : String} {j : Json} (h : sameCursor (.text s) j = true) : j = .text s := by
  cases j with
  | text t => exact congrArg Json.text (eq_of_beq h).symm
  | _ => cases h

theorem isShort_number (collected total : Nat) :
    isShort collected (.number (.integer total)) = .ok (decide (collected < total)) := by
  unfold isShort
  simp only [numberOf?, Number.less, Number.compare?]
  congr 1
  rw [Bool.eq_iff_iff]
  simp [Int.compare_eq_lt]

theorem nextCursor_some {collected total : Nat} {leaf : Leaf} {seen : List Json} {s : String}
    (hmissing : collected < total) (hcursor : leaf.cursor = .text s) (hs : s ≠ "") (hnew : Json.text s ∉ seen) :
    nextCursor? collected (leaf.page total) seen = .ok (some (.text s)) := by
  have hfilled : leaf.cursor.isFilled = true := by simpa [hcursor, Json.isFilled] using hs
  have hfresh : seen.any (sameCursor (.text s)) = false := by
    rw [List.any_eq_false]
    intro j hj hsame
    exact hnew (sameCursor_text hsame ▸ hj)
  unfold nextCursor? Leaf.page
  rw [hfilled, isShort_number, hcursor, decide_eq_true hmissing]
  simp [hfresh]
  rfl

theorem nextCursor_none {collected total : Nat} {leaf : Leaf} {seen : List Json} (hall : total ≤ collected) :
    nextCursor? collected (leaf.page total) seen = .ok none := by
  unfold nextCursor? Leaf.page
  rw [isShort_number, decide_eq_false (Nat.not_lt.mpr hall)]
  cases leaf.cursor.isFilled <;> rfl

variable [Surroundings σ τ]

/-- The provider answers the request for a page with a value. -/
structure Delivers (p : Provider) (cursor : Option Json) (w : World σ τ) (r : Request) (data : Json) : Prop where
  call : ((p.pageCall cursor).bearing w.credential.shown?).request = .ok r
  value : (w.answer r).value r.url listOperation = .ok data

/-- The provider serves the pages, one for each cursor. -/
def Serves (p : Provider) (total : Nat) : Option Json → List Leaf → World σ τ → Prop
  | _, [], _ => True
  | cursor, leaf :: rest, w => ∃ r data, p.Delivers cursor w r data ∧ leaf.Fits total data ∧
    p.Serves total (some leaf.cursor) rest (w.after r)

instance decServes (p : Provider) (total : Nat) :
    ∀ cursor leaves (w : World σ τ), Decidable (p.Serves total cursor leaves w)
  | _, [], _ => isTrue trivial
  | cursor, leaf :: rest, w =>
    match hcall : ((p.pageCall cursor).bearing w.credential.shown?).request with
    | .error e => isFalse fun ⟨r, _, hdelivers, _⟩ => by cases hcall.symm.trans hdelivers.call
    | .ok r =>
      match hvalue : (w.answer r).value r.url listOperation with
      | .error e => isFalse fun ⟨r', _, hdelivers, _⟩ => by
        obtain rfl := Except.ok.inj (hcall.symm.trans hdelivers.call)
        cases hvalue.symm.trans hdelivers.value
      | .ok data =>
        have := decServes p total (some leaf.cursor) rest (w.after r)
        decidable_of_iff (leaf.Fits total data ∧ p.Serves total (some leaf.cursor) rest (w.after r)) {
          mp := fun ⟨hfits, hrest⟩ => ⟨r, data, ⟨hcall, hvalue⟩, hfits, hrest⟩
          mpr := fun ⟨r', data', hdelivers, hfits, hrest⟩ => by
            obtain rfl := Except.ok.inj (hcall.symm.trans hdelivers.call)
            obtain rfl := Except.ok.inj (hvalue.symm.trans hdelivers.value)
            exact ⟨hfits, hrest⟩ }

theorem page_on {p : Provider} {cursor : Option Json} {w : World σ τ} {r : Request} {data : Json}
    (h : p.Delivers cursor w r data) : (p.page cursor).on w = (readPage data, w.after r) := by
  obtain ⟨reply, houtcome, hvalue⟩ := Exchange.value_ok h.value
  have hoperation : (p.pageCall cursor).operation = listOperation := rfl
  unfold page fetch
  rw [Act.on_bind, Act.on_bind, request_eq, sendOnce_sent h.call, hoperation, houtcome, Act.next_ok, hvalue]
  rfl

/-- The pages that are left are all collected, by induction on them; what was collected and what is left are all
items. -/
theorem itemsFrom_serves (p : Provider) {total left : Nat} {leaf : Leaf} {rest : List Leaf} {collected seen : List Json}
    {w : World σ τ} (htotal : collected.length + (all rest).length = total) (hfew : rest.length ≤ left)
    (hfilled : ∀ l ∈ rest, l.items ≠ []) (hlead : ∀ cursor ∈ cursors (leaf :: rest), ∃ s, s ≠ "" ∧ cursor = .text s)
    (hdistinct : (cursors (leaf :: rest)).Nodup) (hnew : ∀ cursor ∈ cursors (leaf :: rest), cursor ∉ seen)
    (hserves : p.Serves total (some leaf.cursor) rest w) :
    ((p.itemsFrom collected (leaf.page total) seen left).on w).1 = .ok (collected ++ all rest) ∧
    ∃ ms, ((p.itemsFrom collected (leaf.page total) seen left).on w).2.journal = Message.events ms ++ w.journal ∧
      List.Forall₂ (fun cursor m => (p.pageCall (some cursor)).Carries m.request) (cursors (leaf :: rest)) ms := by
  induction rest generalizing leaf collected seen left w with
  | nil =>
    have hall : total ≤ collected.length := by simpa using Nat.le_of_eq htotal.symm
    have hend : (p.itemsFrom collected (leaf.page total) seen left).on w = (.ok collected, w) := by
      cases left with
      | zero =>
        unfold itemsFrom Leaf.page
        rw [isShort_number]
        split_ifs <;> rfl
      | succ left =>
        unfold itemsFrom
        rw [nextCursor_none hall]
        rfl
    rw [hend]
    exact ⟨by simp, [], rfl, .nil⟩
  | cons next rest ih =>
    obtain ⟨left, rfl⟩ : ∃ k, left = k + 1 := ⟨left - 1, by simp at hfew; omega⟩
    obtain ⟨s, hs, htext⟩ := hlead leaf.cursor (by simp)
    obtain ⟨r, data, hdelivers, hfits, hrest⟩ := hserves
    have hnext : next.items ≠ [] := hfilled next (by simp)
    have hmissing : collected.length < total := by
      have hsome : 0 < next.items.length := List.length_pos_iff.mpr hnext
      simp at htotal
      omega
    have hcall := nextCursor_some hmissing htext hs (htext ▸ hnew leaf.cursor (by simp))
    have hpage : (p.page (some (.text s))).on w = (.ok (next.page total), w.after r) := by
      rw [← htext, page_on hdelivers, hfits.readPage_eq]
    have hstep : (p.itemsFrom collected (leaf.page total) seen (left + 1)).on w =
        (p.itemsFrom (collected ++ next.items) (next.page total) (.text s :: seen) left).on (w.after r) := by
      rw [itemsFrom, hcall, Act.on_bind, Act.on_ofExcept, Act.next_ok]
      dsimp only
      rw [Act.on_bind, hpage, Act.next_ok]
      rw [if_neg (by simpa using hnext), items_page]
    rw [hstep]
    have hdistinct' := List.nodup_cons.mp (cursors_cons leaf next rest ▸ hdistinct)
    have htotal' : (collected ++ next.items).length + (all rest).length = total := by
      simpa [Nat.add_assoc] using htotal
    have hnew' (cursor : Json) (hc : cursor ∈ cursors (next :: rest)) : cursor ∉ .text s :: seen := by
      rw [List.mem_cons, not_or]
      exact ⟨fun heq => hdistinct'.1 (htext ▸ heq ▸ hc), hnew cursor (by simp [hc])⟩
    obtain ⟨houtcome, ms, hjournal, hms⟩ := ih htotal' (by simpa using hfew)
      (fun l hl => hfilled l (List.mem_cons_of_mem _ hl)) (fun cursor hc => hlead cursor (by simp [hc]))
      hdistinct'.2 hnew' hrest
    refine ⟨by simp [houtcome], .call r (w.answer r) :: ms, ?_, ?_⟩
    · simp [hjournal, Message.event]
    · rw [cursors_cons]
      exact .cons ⟨_, _, hdelivers.call⟩ hms

theorem workspaces_whole {p : Provider} {w : World σ τ} {r : Request} {data : Json} {items : List Json}
    (h : p.Delivers none w r data) (hread : readPage data = .ok ⟨items, .null, .null⟩) :
    ((p.workspaces).on w).1 = items.mapM (readWorkspace listOperation) := by
  unfold workspaces
  rw [Act.on_bind, page_on h, hread, Act.next_ok]
  rfl

/-- From a list that is spread over pages all items are read, and every page is asked for once. -/
theorem workspaces_serves {p : Provider} {total : Nat} {leaves : List Leaf} {w : World σ τ}
    (hsplit : Split total leaves) (hserves : p.Serves total none leaves w) :
    ((p.workspaces).on w).1 = (all leaves).mapM (readWorkspace listOperation) ∧
    ∃ ms, ((p.workspaces).on w).2.journal = Message.events ms ++ w.journal ∧
      List.Forall₂ (fun cursor m => (p.pageCall cursor).Carries m.request) (none :: (cursors leaves).map some) ms := by
  cases leaves with
  | nil => exact absurd rfl hsplit.nonempty
  | cons leaf rest =>
    obtain ⟨r, data, hdelivers, hfits, hrest⟩ := hserves
    have hfew : rest.length ≤ maxPages - 1 := Nat.le_sub_one_of_lt hsplit.few
    have hfilled (l : Leaf) (hl : l ∈ rest) : l.items ≠ [] := by
      have hsome : 0 < rest.length := List.length_pos_of_mem hl
      exact hsplit.filled (by simpa using hsome) l (List.mem_cons_of_mem leaf hl)
    have hfirst : (p.page none).on w = (.ok (leaf.page total), w.after r) := by
      rw [page_on hdelivers, hfits.readPage_eq]
    have hnew (cursor : Json) (_ : cursor ∈ cursors (leaf :: rest)) : cursor ∉ [] := List.not_mem_nil
    obtain ⟨hitems, ms, hjournal, hms⟩ := p.itemsFrom_serves (by simpa using hsplit.total) hfew hfilled hsplit.lead
      hsplit.distinct hnew hrest
    unfold workspaces
    rw [Act.on_bind, hfirst, Act.next_ok, items_page, Act.on_bind, Act.next_of_ok _ hitems]
    refine ⟨rfl, .call r (w.answer r) :: ms, ?_, .cons ⟨_, _, hdelivers.call⟩ (List.forall₂_map_left_iff.mpr hms)⟩
    rw [Act.on_ofExcept, hjournal]
    simp [Message.event]

/-- **A list is the same, however it is spread over pages.** Every page is asked for once, in order, and the outcome
is that of reading all items, as from the bare list of them and from an object that holds that list. -/
theorem workspaces_paged (p : Provider) {total : Nat} {leaves : List Leaf} {w : World σ τ} (hsplit : Split total leaves)
    (hserves : p.Serves total none leaves w) :
    ((p.workspaces).on w).1 = (all leaves).mapM (readWorkspace listOperation) ∧
    (∃ ms, ((p.workspaces).on w).2.journal = Message.events ms ++ w.journal ∧
      List.Forall₂ (fun cursor m => (p.pageCall cursor).Carries m.request)
        (none :: (cursors leaves).map some) ms) ∧
    (∀ (v : World σ τ) r, p.Delivers none v r (.list (all leaves)) →
      ((p.workspaces).on v).1 = ((p.workspaces).on w).1) ∧
    ∀ (v : World σ τ) r fields, p.Delivers none v r (.object fields) →
      (Json.object fields).field "workspaces" = .list (all leaves) → (Json.object fields).field "count" = .null →
      (Json.object fields).field "after_id" = .null → ((p.workspaces).on v).1 = ((p.workspaces).on w).1 := by
  obtain ⟨houtcome, hmessages⟩ := workspaces_serves hsplit hserves
  refine ⟨houtcome, hmessages, fun v r hlist => ?_, fun v r fields hobject hitems hcount hcursor => ?_⟩
  · rw [houtcome]
    exact workspaces_whole hlist rfl
  · rw [houtcome]
    exact workspaces_whole hobject (readPage_object hitems hcount hcursor)

end Provider

/-! ## A run -/

/-- The provider spreads three workspaces over two pages. -/
def Rehearsal.leafing : Rehearsal :=
  { plain with
    routes := [
      ("GET /api/v2/workspaces", [answer 200 (.object [("workspaces", .list [.object [("id", .text "a")],
        .object [("id", .text "b")]]), ("count", .number (.integer 3)), ("after_id", .text "b")])]),
      ("GET /api/v2/workspaces?after_id=b", [answer 200 (.object [("workspaces", .list [.object [("id", .text "c")]]),
        ("count", .number (.integer 3))])])] }

theorem Provider.workspaces_paged_leafing :
    let p := Keeper.confirming.provider
    let w := Rehearsal.leafing.world
    let leaves : List Leaf := [⟨[.object [("id", .text "a")], .object [("id", .text "b")]], .text "b"⟩,
      ⟨[.object [("id", .text "c")]], .null⟩]
    Leaf.Split 3 leaves ∧ p.Serves 3 none leaves w ∧
      ((p.workspaces).on w).1 = (Leaf.all leaves).mapM (readWorkspace listOperation) := by
  intro p w leaves
  have hsplit : Leaf.Split 3 leaves := {
    nonempty := by decide
    few := by decide
    filled := by decide
    lead := by simp [leaves]
    distinct := by decide
    total := rfl }
  have hserves : p.Serves 3 none leaves w := by decide +kernel
  exact ⟨hsplit, hserves, (p.workspaces_paged hsplit hserves).1⟩

end SessionKeeper

import Mathlib.Data.List.Nodup
import SessionKeeper.Proofs.Answers
import SessionKeeper.Proofs.Provider.Failures

/-!
# The search for pages ends

The list of workspaces is read page by page, and the provider may answer anything: cursors that come again, counts that
grow, pages without end. However it answers, the search keeps within its bounds.

* `Provider.Fetch`, `Provider.Fetches` : a page that is asked for with the messages that it takes, and a run of them.
* `Provider.GoesOn` : after some pages the search goes on with a cursor.
* `Provider.nextCursor_goesOn`, `Provider.nextCursor_ends` : the next cursor is one with which the search goes on.
* `Provider.Search`, `Provider.itemsFrom_search` : the pages that follow those that were read.
* `Provider.Follows` : a run of pages that keeps within its bounds.
* `Provider.Listing`, `Provider.workspaces_bounded` : the bounds, and what is returned.
-/

namespace SessionKeeper

variable {σ τ : Type}

namespace Provider

/-! ## Pages that are asked for -/

/-- A request for a page: the cursor that it asks for, its messages, and the page that is read. -/
structure Fetch where
  cursor : Option Json
  messages : List Message
  page : Except Fault Page

def pageIn (reply : Reply) : Except Fault Page := do
  let data ← reply.value listOperation
  readPage data

namespace Fetch

def items (f : Fetch) : List Json :=
  match f.page with
  | .ok page => page.items
  | .error _ => []

/-- The cursor that is asked for, if it is a text. -/
def word? (f : Fetch) : Option String :=
  match f.cursor with
  | some (.text s) => some s
  | _ => none

/-- The items of some pages, in the order in which they were fetched. -/
def all (fs : List Fetch) : List Json := fs.flatMap items

/-- The cursors that were asked for, the latest first. -/
def used (fs : List Fetch) : List Json := (fs.filterMap (·.cursor)).reverse

@[simp] theorem all_append (fs gs : List Fetch) : all (fs ++ gs) = all fs ++ all gs := List.flatMap_append

theorem all_single {f : Fetch} {page : Page} (h : f.page = .ok page) : all [f] = page.items := by
  simp [all, items, h]

theorem used_snoc {fs : List Fetch} {f : Fetch} {cursor : Json} (h : f.cursor = some cursor) :
    used (fs ++ [f]) = cursor :: used fs := by
  simp [used, h]

theorem mem_used {fs : List Fetch} {cursor : Json} : cursor ∈ used fs ↔ ∃ f ∈ fs, f.cursor = some cursor := by
  simp [used]

end Fetch

section

variable [Surroundings σ τ]

/-- The fetch is one request for its page, which leads from one world to another. Where the token is refused, its
renewal and the call that is sent again are messages of the same request. -/
def Fetch.Made (p : Provider) (w : World σ τ) (f : Fetch) (v : World σ τ) : Prop :=
  ∃ outcome, p.Talk (p.pageCall f.cursor) w f.messages outcome v ∧ f.page = outcome >>= pageIn

/-- The fetches are made one after the other, and nothing else is done. -/
def Fetches (p : Provider) : World σ τ → List Fetch → World σ τ → Prop
  | w, [], v => v = w
  | w, f :: fs, v => ∃ u, f.Made p w u ∧ p.Fetches u fs v

theorem Fetches.journal {p : Provider} {w v : World σ τ} {fs : List Fetch} (h : p.Fetches w fs v) :
    v.journal = Message.events (fs.flatMap (·.messages)) ++ w.journal := by
  induction fs generalizing w with
  | nil =>
    obtain rfl : v = w := h
    rfl
  | cons f fs ih =>
    obtain ⟨u, ⟨outcome, htalk, -⟩, hrest⟩ := h
    rw [ih hrest, htalk.journal, List.flatMap_cons, Message.events_append, List.append_assoc]

theorem page_made (p : Provider) (cursor : Option Json) (w : World σ τ) :
    ∃ f : Fetch, f.cursor = cursor ∧ f.page = ((p.page cursor).on w).1 ∧ f.Made p w ((p.page cursor).on w).2 := by
  obtain ⟨ms, htalk⟩ := p.request_talk (p.pageCall cursor) w
  have hpage : (p.page cursor).on w =
      (((p.request (p.pageCall cursor)).on w).1 >>= pageIn, ((p.request (p.pageCall cursor)).on w).2) := by
    rw [page, Act.on_bind_ofExcept, fetch, Act.on_bind_ofExcept, bind_assoc]
    rfl
  rw [hpage]
  exact ⟨⟨cursor, ms, _⟩, rfl, rfl, _, htalk, rfl⟩

end

/-! ## Going on -/

/-- The count is a number, and greater than that of the items that were collected. -/
def IsMissing (collected : Nat) (count : Json) : Prop :=
  ∃ n, numberOf? count = some n ∧ (Number.integer collected).less n = true

/-- After some pages the search goes on with a cursor: there were fewer pages than are fetched at most, the last one was
read and was not empty unless it is the first, it has that cursor, which is filled and was not asked for before, and
items are missing. -/
structure GoesOn (past : List Fetch) (cursor : Json) : Prop where
  few : past.length < maxPages
  last : ∃ f page, past.getLast? = some f ∧ f.page = .ok page ∧ (past.length = 1 ∨ page.items ≠ []) ∧
    page.cursor = cursor ∧ IsMissing (Fetch.all past).length page.count
  filled : cursor.isFilled = true
  fresh : ∀ f ∈ past, ∀ c, f.cursor = some c → sameCursor cursor c = false

theorem isShort_eq_true {collected : Nat} {count : Json} :
    isShort collected count = .ok true ↔ IsMissing collected count := by
  unfold isShort IsMissing
  cases count with
  | bool b => simp [numberOf?]
  | number n => simp [numberOf?]
  | _ => simp [numberOf?]

theorem nextCursor_missing {collected : Nat} {page : Page} (hfilled : page.cursor.isFilled = true)
    (hmissing : IsMissing collected page.count) (seen : List Json) :
    nextCursor? collected page seen =
      if isUnfound page.cursor then .error .wrongKind
      else .ok (if seen.any (sameCursor page.cursor) then none else some page.cursor) := by
  unfold nextCursor?
  rw [hfilled, isShort_eq_true.mpr hmissing]
  cases page.cursor <;> rfl

theorem missing_of_nextCursor {collected : Nat} {page : Page} {seen : List Json} {cursor : Json}
    (h : nextCursor? collected page seen = .ok (some cursor)) :
    page.cursor.isFilled = true ∧ IsMissing collected page.count := by
  unfold nextCursor? at h
  cases hfilled : page.cursor.isFilled with
  | false =>
    rw [hfilled] at h
    cases h
  | true =>
    rw [hfilled] at h
    refine ⟨rfl, isShort_eq_true.mp ?_⟩
    cases hshort : isShort collected page.count with
    | error e =>
      rw [hshort] at h
      cases h
    | ok short =>
      rw [hshort] at h
      cases short with
      | false => cases h
      | true => rfl

theorem nextCursor_goesOn {collected : Nat} {page : Page} {seen : List Json} {cursor : Json}
    (h : nextCursor? collected page seen = .ok (some cursor)) :
    page.cursor = cursor ∧ cursor.isFilled = true ∧ IsMissing collected page.count ∧
      ∀ c ∈ seen, sameCursor cursor c = false := by
  obtain ⟨hfilled, hmissing⟩ := missing_of_nextCursor h
  rw [nextCursor_missing hfilled hmissing] at h
  split_ifs at h with hunfound hseen
  · cases h
  · obtain rfl := Option.some.inj (Except.ok.inj h)
    exact ⟨rfl, hfilled, hmissing, by simpa using hseen⟩

theorem nextCursor_ends {collected : Nat} {page : Page} {seen : List Json}
    (h : nextCursor? collected page seen = .ok none) (hfilled : page.cursor.isFilled = true)
    (hmissing : IsMissing collected page.count) : ∃ c ∈ seen, sameCursor page.cursor c = true := by
  rw [nextCursor_missing hfilled hmissing] at h
  split_ifs at h with hunfound hseen
  · simpa using hseen
  · cases h

/-! ## The pages that follow -/

section

variable [Surroundings σ τ] {p : Provider} {past fs : List Fetch} {w u v : World σ τ}
  {outcome : Except Fault (List Json)}

/-- After the pages of the past more are fetched, each with a cursor with which the search goes on; in the end it does
not go on, and all items were collected, or a page could not be fetched or looked at. -/
structure Search (p : Provider) (past : List Fetch) (w : World σ τ) (fs : List Fetch)
    (outcome : Except Fault (List Json)) (v : World σ τ) : Prop where
  fetched : p.Fetches w fs v
  follows : ∀ before f after, fs = before ++ f :: after → ∃ cursor, f.cursor = some cursor ∧
    GoesOn (past ++ before) cursor
  returns : ∀ items, outcome = .ok items → items = Fetch.all (past ++ fs) ∧ (∀ f ∈ fs, ∃ page, f.page = .ok page) ∧
    ∀ cursor, ¬ GoesOn (past ++ fs) cursor
  fails : ∀ e, outcome = .error e → (∃ f, fs.getLast? = some f ∧ f.page = .error e) ∨
    (e = .wrongKind ∧ ∃ f ∈ past ++ fs, ∃ page, f.page = .ok page ∧ page.isStuck = true)

namespace Search

theorem done (hend : ∀ cursor, ¬ GoesOn past cursor) : p.Search past w [] (.ok (Fetch.all past)) w where
  fetched := rfl
  follows before f after h := by simp at h
  returns items h := by
    obtain rfl := Except.ok.inj h
    simpa using hend
  fails e h := by cases h

theorem stuck {f : Fetch} {page : Page} (hf : f ∈ past) (hpage : f.page = .ok page) (hstuck : page.isStuck = true) :
    p.Search past w [] (.error .wrongKind) w where
  fetched := rfl
  follows before f after h := by simp at h
  returns items h := by cases h
  fails e h := by
    obtain rfl := Except.error.inj h
    exact Or.inr ⟨rfl, f, by simpa using hf, page, hpage, hstuck⟩

theorem cons {f : Fetch} {cursor : Json} (hmade : f.Made p w u) (hcursor : f.cursor = some cursor)
    (hgoesOn : GoesOn past cursor) (hread : ∃ page, f.page = .ok page) (hrest : p.Search (past ++ [f]) u fs outcome v) :
    p.Search past w (f :: fs) outcome v where
  fetched := ⟨u, hmade, hrest.fetched⟩
  follows before g after h := by
    cases before with
    | nil =>
      obtain ⟨rfl, -⟩ := List.cons.inj h
      exact ⟨cursor, hcursor, by simpa using hgoesOn⟩
    | cons b before =>
      obtain ⟨rfl, hfs⟩ := List.cons.inj h
      simpa using hrest.follows before g after hfs
  returns items h := by
    obtain ⟨hitems, hpages, hend⟩ := hrest.returns items h
    exact ⟨by simpa using hitems, List.forall_mem_cons.mpr ⟨hread, hpages⟩, by simpa using hend⟩
  fails e h := by
    rcases hrest.fails e h with ⟨g, hlast, hfailed⟩ | ⟨hkind, hstuck⟩
    · refine Or.inl ⟨g, ?_, hfailed⟩
      rw [List.getLast?_cons, hlast]
      rfl
    · exact Or.inr ⟨hkind, by simpa using hstuck⟩

theorem unfetched {f : Fetch} {cursor : Json} {e : Fault} (hmade : f.Made p w u) (hcursor : f.cursor = some cursor)
    (hgoesOn : GoesOn past cursor) (hfailed : f.page = .error e) : p.Search past w [f] (.error e) u where
  fetched := ⟨u, hmade, rfl⟩
  follows before g after h := by
    obtain ⟨rfl, hg⟩ : before = [] ∧ f = g := by
      cases before with
      | nil => exact ⟨rfl, (List.cons.inj h).1⟩
      | cons b before => simp at h
    exact ⟨cursor, hg ▸ hcursor, by simpa using hgoesOn⟩
  returns items h := by cases h
  fails e' h := by
    obtain rfl := Except.error.inj h
    exact Or.inl ⟨f, rfl, hfailed⟩

end Search

theorem not_goesOn_empty {f : Fetch} {page : Page} (hpast : past ≠ []) (hpage : f.page = .ok page)
    (hempty : page.items = []) (cursor : Json) : ¬ GoesOn (past ++ [f]) cursor := by
  intro h
  obtain ⟨g, other, hlast, hother, hsome, -⟩ := h.last
  obtain rfl : f = g := by simpa using hlast
  obtain rfl : page = other := Except.ok.inj (hpage.symm.trans hother)
  rcases hsome with hone | hfilled
  · simp [hpast] at hone
  · exact hfilled hempty

theorem goesOn_of_nextCursor {f : Fetch} {last : Page} {cursor : Json} (hfew : past.length < maxPages)
    (hlast : past.getLast? = some f) (hpage : f.page = .ok last) (hsome : past.length = 1 ∨ last.items ≠ [])
    (hnext : nextCursor? (Fetch.all past).length last (Fetch.used past) = .ok (some cursor)) : GoesOn past cursor := by
  obtain ⟨hcursor, hfilled, hmissing, hnew⟩ := nextCursor_goesOn hnext
  exact {
    few := hfew
    last := ⟨f, last, hlast, hpage, hsome, hcursor, hmissing⟩
    filled := hfilled
    fresh := fun g hg c hc => hnew c (Fetch.mem_used.mpr ⟨g, hg, hc⟩) }

theorem not_goesOn_ended {f : Fetch} {last : Page} (hlast : past.getLast? = some f) (hpage : f.page = .ok last)
    (hnext : nextCursor? (Fetch.all past).length last (Fetch.used past) = .ok none) (cursor : Json) :
    ¬ GoesOn past cursor := by
  intro h
  obtain ⟨g, other, hg, hother, -, rfl, hmissing⟩ := h.last
  obtain rfl : f = g := Option.some.inj (hlast.symm.trans hg)
  obtain rfl : last = other := Except.ok.inj (hpage.symm.trans hother)
  obtain ⟨c, hused, hsame⟩ := nextCursor_ends hnext h.filled hmissing
  obtain ⟨g, hmem, hcursor⟩ := Fetch.mem_used.mp hused
  rw [h.fresh g hmem c hcursor] at hsame
  cases hsame

/-- What is fetched after some pages, by induction on how many may follow: the items and the cursors that are handed on
are those of all pages that were fetched. -/
theorem itemsFrom_search (p : Provider) {past : List Fetch} {f : Fetch} {last : Page} {left : Nat}
    (hlast : past.getLast? = some f) (hpage : f.page = .ok last) (hsome : past.length = 1 ∨ last.items ≠ [])
    (hleft : past.length + left = maxPages) (w : World σ τ) :
    ∃ fs, p.Search past w fs ((p.itemsFrom (Fetch.all past) last (Fetch.used past) left).on w).1
      ((p.itemsFrom (Fetch.all past) last (Fetch.used past) left).on w).2 := by
  induction left generalizing past f last w with
  | zero =>
    have hend (cursor : Json) : ¬ GoesOn past cursor := fun h => by
      have hfew := h.few
      omega
    unfold itemsFrom
    split_ifs with hcursor
    · rw [Act.on_bind, Act.on_ofExcept]
      cases hshort : isShort (Fetch.all past).length last.count with
      | error e =>
        obtain ⟨rfl, hcount, hnone⟩ := isShort_only _ _ e hshort
        exact ⟨[], .stuck (List.mem_of_getLast? hlast) hpage (by rw [isStuck_eq hcursor hcount, hnone]; rfl)⟩
      | ok short => exact ⟨[], .done hend⟩
    · exact ⟨[], .done hend⟩
  | succ left ih =>
    unfold itemsFrom
    rw [Act.on_bind, Act.on_ofExcept]
    cases hnext : nextCursor? (Fetch.all past).length last (Fetch.used past) with
    | error e =>
      obtain ⟨rfl, hstuck⟩ := nextCursor_only _ _ _ e hnext
      exact ⟨[], .stuck (List.mem_of_getLast? hlast) hpage hstuck⟩
    | ok found =>
      cases found with
      | none => exact ⟨[], .done (not_goesOn_ended hlast hpage hnext)⟩
      | some cursor =>
        have hgoesOn : GoesOn past cursor := goesOn_of_nextCursor (by omega) hlast hpage hsome hnext
        obtain ⟨g, hasked, hread, hmade⟩ := p.page_made (some cursor) w
        rw [Act.next_ok]
        dsimp only
        rw [Act.on_bind]
        rcases hrun : (p.page (some cursor) : Act σ τ Page).on w with ⟨e | next, u⟩
        · rw [hrun] at hread hmade
          exact ⟨[g], .unfetched hmade hasked hgoesOn hread⟩
        · rw [hrun] at hread hmade
          rw [Act.next_ok]
          have hall : Fetch.all (past ++ [g]) = Fetch.all past ++ next.items := by
            rw [Fetch.all_append, Fetch.all_single hread]
          split_ifs with hempty
          · -- the empty page is the last, and adds nothing to what was collected
            have hpast : past ≠ [] := List.ne_nil_of_mem (List.mem_of_getLast? hlast)
            have hnone : next.items = [] := by simpa using hempty
            rw [hnone, List.append_nil] at hall
            rw [← hall]
            exact ⟨[g], .cons hmade hasked hgoesOn ⟨next, hread⟩ (.done (not_goesOn_empty hpast hread hnone))⟩
          · rw [← hall, ← Fetch.used_snoc hasked]
            have hlast' : (past ++ [g]).getLast? = some g := List.getLast?_concat
            have hleft' : (past ++ [g]).length + left = maxPages := by
              rw [List.length_append, List.length_singleton]
              omega
            obtain ⟨fs, hrest⟩ := ih hlast' hread (Or.inr (by simpa using hempty)) hleft' u
            exact ⟨g :: fs, .cons hmade hasked hgoesOn ⟨next, hread⟩ hrest⟩

end

/-! ## All pages -/

/-- Every page but the first is asked for with a cursor with which the search goes on. -/
def Follows (fs : List Fetch) : Prop :=
  ∀ before f after, fs = before ++ f :: after → before ≠ [] → ∃ cursor, f.cursor = some cursor ∧ GoesOn before cursor

namespace Follows

variable {fs : List Fetch}

theorem few (h : Follows fs) : fs.length ≤ maxPages := by
  rcases List.eq_nil_or_concat' fs with rfl | ⟨before, f, rfl⟩
  · exact Nat.zero_le _
  · rw [List.length_append, List.length_singleton]
    rcases eq_or_ne before [] with rfl | hbefore
    · decide
    · obtain ⟨cursor, -, hgoesOn⟩ := h before f [] rfl hbefore
      exact hgoesOn.few

/-- A text is asked for as a cursor once only. -/
theorem distinct (h : Follows fs) : (fs.filterMap Fetch.word?).Nodup := by
  rw [List.Nodup, List.pairwise_filterMap, List.pairwise_iff_getElem]
  intro i j hi hj hij s hs t ht heq
  subst heq
  have hsplit : fs = fs.take j ++ fs[j] :: fs.drop (j + 1) := by simp
  have hmem : fs[i] ∈ fs.take j := List.mem_take_iff_getElem.mpr ⟨i, by omega, rfl⟩
  obtain ⟨cursor, hcursor, hgoesOn⟩ := h _ _ _ hsplit (List.ne_nil_of_mem hmem)
  have hword {f : Fetch} (hf : f.word? = some s) : f.cursor = some (.text s) := by
    unfold Fetch.word? at hf
    split at hf
    · rename_i hc
      rw [hc, Option.some.inj hf]
    · cases hf
  obtain rfl : Json.text s = cursor := Option.some.inj ((hword ht).symm.trans hcursor)
  have hsame : sameCursor (.text s) (.text s) = true := beq_self_eq_true s
  rw [hgoesOn.fresh _ hmem _ (hword hs)] at hsame
  cases hsame

/-- Nothing is asked for after an empty page that is not the first. -/
theorem stops (h : Follows fs) {before after : List Fetch} {f : Fetch} {page : Page} (hfs : fs = before ++ f :: after)
    (hbefore : before ≠ []) (hpage : f.page = .ok page) (hempty : page.items = []) : after = [] := by
  cases after with
  | nil => rfl
  | cons g after =>
    obtain ⟨cursor, -, hgoesOn⟩ := h (before ++ [f]) g after (by simp [hfs]) (by simp)
    exact absurd hgoesOn (not_goesOn_empty hbefore hpage hempty cursor)

end Follows

section

variable [Surroundings σ τ] {p : Provider} {w u v : World σ τ}

/-- The pages that are fetched for the list of all workspaces, and what comes of them. -/
structure Listing (p : Provider) (w : World σ τ) (fs : List Fetch) (outcome : Except Fault (List Workspace))
    (v : World σ τ) : Prop where
  fetched : p.Fetches w fs v
  journal : v.journal = Message.events (fs.flatMap (·.messages)) ++ w.journal
  few : fs.length ≤ 50
  starts : fs.head?.map (·.cursor) = some none
  follows : Follows fs
  distinct : (fs.filterMap Fetch.word?).Nodup
  stops : ∀ before f after page, fs = before ++ f :: after → before ≠ [] → f.page = .ok page → page.items = [] →
    after = []
  returns : ∀ ws, outcome = .ok ws → (∀ f ∈ fs, ∃ page, f.page = .ok page) ∧
    List.Forall₂ (fun j x => readWorkspace listOperation j = .ok x) (Fetch.all fs) ws ∧ ∀ cursor, ¬ GoesOn fs cursor
  fails : ∀ e, outcome = .error e → (∃ f, fs.getLast? = some f ∧ f.page = .error e) ∨
    (e = .wrongKind ∧ ∃ f ∈ fs, ∃ page, f.page = .ok page ∧ page.isStuck = true) ∨
    ∃ j ∈ Fetch.all fs, readWorkspace listOperation j = .error e

theorem Search.listing {f : Fetch} {fs : List Fetch} {items : Except Fault (List Json)} (hmade : f.Made p w u)
    (hcursor : f.cursor = none) (hread : ∃ page, f.page = .ok page) (h : p.Search [f] u fs items v) :
    p.Listing w (f :: fs) (items >>= fun js => js.mapM (readWorkspace listOperation)) v := by
  have hfetched : p.Fetches w (f :: fs) v := ⟨u, hmade, h.fetched⟩
  have hfollows : Follows (f :: fs) := by
    intro before g after hfs hbefore
    cases before with
    | nil => exact absurd rfl hbefore
    | cons b before =>
      obtain ⟨rfl, hrest⟩ := List.cons.inj hfs
      exact h.follows before g after hrest
  refine {
    fetched := hfetched
    journal := hfetched.journal
    few := hfollows.few
    starts := congrArg some hcursor
    follows := hfollows
    distinct := hfollows.distinct
    stops := fun before g after page hfs hbefore hpage hempty => hfollows.stops hfs hbefore hpage hempty
    returns := fun ws hws => ?_
    fails := fun e he => ?_ }
  · cases items with
    | error e => cases hws
    | ok js =>
      obtain ⟨rfl, hpages, hend⟩ := h.returns js rfl
      exact ⟨List.forall_mem_cons.mpr ⟨hread, hpages⟩, mapM_eq_ok_iff.mp hws, hend⟩
  · cases items with
    | error e' =>
      obtain rfl : e' = e := Except.error.inj he
      rcases h.fails e' rfl with ⟨g, hlast, hfailed⟩ | hstuck
      · exact Or.inl ⟨g, by rw [List.getLast?_cons, hlast]; rfl, hfailed⟩
      · exact Or.inr (Or.inl hstuck)
    | ok js =>
      obtain ⟨rfl, -, -⟩ := h.returns js rfl
      obtain ⟨before, j, after, hjs, -, hj⟩ := mapM_error he
      have hmem : j ∈ Fetch.all ([f] ++ fs) := hjs ▸ List.mem_append_right before List.mem_cons_self
      exact Or.inr (Or.inr ⟨j, hmem, hj⟩)

theorem listing_unfetched {f : Fetch} {e : Fault} (hmade : f.Made p w u) (hcursor : f.cursor = none)
    (hfailed : f.page = .error e) : p.Listing w [f] (.error e) u := by
  have hfollows : Follows [f] := by
    intro before g after hfs hbefore
    cases before with
    | nil => exact absurd rfl hbefore
    | cons b before => simp at hfs
  exact {
    fetched := ⟨u, hmade, rfl⟩
    journal := Fetches.journal ⟨u, hmade, rfl⟩
    few := hfollows.few
    starts := congrArg some hcursor
    follows := hfollows
    distinct := hfollows.distinct
    stops := fun before g after page hfs hbefore hpage hempty => hfollows.stops hfs hbefore hpage hempty
    returns := fun ws hws => by cases hws
    fails := fun e' he => Or.inl ⟨f, rfl, by rw [hfailed, Except.error.inj he]⟩ }

/-- **The search for workspaces keeps within its bounds.** Whatever the provider answers, at most fifty pages are asked
for, each by one request, whose refused token may be renewed: the first without a cursor and every other one with a
cursor with which the search goes on. No text is a cursor twice, and nothing follows an empty page that is not the
first. A list that is returned has one workspace for each item of all the pages, in their order, and the search does
not go on; a failure is that of the last page, or a page is stuck, or an item cannot be read. -/
theorem workspaces_bounded (p : Provider) (w : World σ τ) :
    ∃ fs, p.Listing w fs ((p.workspaces).on w).1 ((p.workspaces).on w).2 := by
  obtain ⟨f, hcursor, hread, hmade⟩ := p.page_made none w
  unfold workspaces
  rw [Act.on_bind]
  rcases hrun : (p.page none : Act σ τ Page).on w with ⟨e | first, u⟩
  · rw [hrun] at hread hmade
    exact ⟨[f], listing_unfetched hmade hcursor hread⟩
  · rw [hrun] at hread hmade
    have hlast : [f].getLast? = some f := rfl
    have hleft : [f].length + (maxPages - 1) = maxPages := rfl
    obtain ⟨fs, hsearch⟩ := p.itemsFrom_search hlast hread (Or.inl rfl) hleft u
    have hused : Fetch.used [f] = [] := by simp [Fetch.used, hcursor]
    rw [Fetch.all_single hread, hused] at hsearch
    refine ⟨f :: fs, ?_⟩
    rw [Act.next_ok, Act.on_bind]
    rcases hitems : (p.itemsFrom first.items first [] (maxPages - 1) : Act σ τ (List Json)).on u with ⟨e | js, v⟩
    · rw [hitems] at hsearch
      exact hsearch.listing hmade hcursor ⟨first, hread⟩
    · rw [hitems] at hsearch
      exact hsearch.listing hmade hcursor ⟨first, hread⟩

end

end Provider

end SessionKeeper

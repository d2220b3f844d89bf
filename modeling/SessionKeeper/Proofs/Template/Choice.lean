import Mathlib.Tactic.Common
import SessionKeeper.Proofs.Workspace.Length
import SessionKeeper.Template.Choice

/-!
# The template that is chosen

The tags of a session go before the order of the templates: the first tag that any template bears decides, and then
the first template that bears it. The word of the house and the head of the list only count where no tag does.

* `Template.Bears`, `Template.IsOfHouse` : a template bears a tag; it is one of the house.
* `Template.Chosen` : the three ways to choose a template.
* `Template.choose_eq_some_iff`, `Template.choose_append`, `Template.choose_insert` : the choice, with more templates
  and with more tags.
* `Template.choose_lexicographic` : all of it.
-/

namespace SessionKeeper

open Text Ownership

namespace Template

/-! ## What is looked for -/

/-- The word occurs in the text, in any letter case. -/
def Occurs (word text : String) : Prop := lowerChars word.toList <:+: lowerChars text.toList

/-- The tag is not empty and occurs in the name, the display name or the description. -/
def Bears (t : Template) (tag : String) : Prop :=
  tag ≠ "" ∧ ∃ text ∈ [t.name, t.displayName, t.description], Occurs tag text

/-- The word of the house is not empty and occurs in the name. -/
def IsOfHouse (word : String) (t : Template) : Prop := word ≠ "" ∧ Occurs word t.name

/-- The first of some items with a property. -/
def FirstIn {α : Type} (P : α → Prop) (xs : List α) (x : α) : Prop :=
  P x ∧ ∃ front back, xs = front ++ x :: back ∧ ∀ y ∈ front, ¬ P y

def Borne (ts : List Template) (tag : String) : Prop := ∃ t ∈ ts, t.Bears tag

/-- The template for a session with those tags. -/
inductive Chosen (ts : List Template) (tags : List String) (word : String) : Template → Prop
  | tagged {tag : String} {t : Template} (htag : FirstIn (Borne ts) tags tag) (ht : FirstIn (·.Bears tag) ts t) :
    Chosen ts tags word t
  | house {t : Template} (htags : ∀ tag ∈ tags, ¬ Borne ts tag) (ht : FirstIn (IsOfHouse word) ts t) :
    Chosen ts tags word t
  | first {t : Template} {rest : List Template} (htags : ∀ tag ∈ tags, ¬ Borne ts tag)
    (hhouse : ∀ t ∈ ts, ¬ IsOfHouse word t) (hts : ts = t :: rest) : Chosen ts tags word t

/-! ## Searches -/

theorem find_eq_some_iff {α : Type} {p : α → Bool} {P : α → Prop} (h : ∀ x, p x = true ↔ P x) {xs : List α} {x : α} :
    xs.find? p = some x ↔ FirstIn P xs x := by
  rw [List.find?_eq_some_iff_append, h, FirstIn]
  simp only [Bool.not_eq_true', ← Bool.not_eq_true, h]

theorem find_eq_none_iff {α : Type} {p : α → Bool} {P : α → Prop} (h : ∀ x, p x = true ↔ P x) {xs : List α} :
    xs.find? p = none ↔ ∀ x ∈ xs, ¬ P x := by
  rw [List.find?_eq_none]
  simp only [h]

theorem lowerChars_eq_nil_iff {s : String} : lowerChars s.toList = [] ↔ s = "" := by
  constructor
  · intro h
    have hlength := length_le_lowerChars s.toList
    rw [h, List.length_nil, Nat.le_zero, List.length_eq_zero_iff] at hlength
    exact String.toList_eq_nil_iff.mp hlength
  · rintro rfl
    rfl

theorem bears_iff {t : Template} {tag : String} (htag : tag ≠ "") : t.matchesTag tag = true ↔ t.Bears tag := by
  unfold matchesTag Bears Occurs
  rw [List.any_eq_true, and_iff_right htag]
  simp only [occursIn_iff]

instance (t : Template) (tag : String) : Decidable (t.Bears tag) :=
  decidable_of_iff (tag ≠ "" ∧ t.matchesTag tag = true)
    ⟨fun h => (bears_iff h.1).mp h.2, fun h => ⟨h.1, (bears_iff h.1).mpr h⟩⟩

instance (ts : List Template) (tag : String) : Decidable (Borne ts tag) :=
  inferInstanceAs (Decidable (∃ t ∈ ts, t.Bears tag))

theorem isHouse_iff (word : String) (t : Template) : isHouse word t = true ↔ IsOfHouse word t := by
  have hword : (lowerChars word.toList).isEmpty = true ↔ word = "" := List.isEmpty_iff.trans lowerChars_eq_nil_iff
  unfold isHouse IsOfHouse Occurs
  rw [Bool.and_eq_true, occursIn_iff, Bool.not_eq_true', ← Bool.not_eq_true, hword]

theorem tagged_eq_some_iff {ts : List Template} {tag : String} {t : Template} :
    (if tag.isEmpty then none else ts.find? (·.matchesTag tag)) = some t ↔ FirstIn (·.Bears tag) ts t := by
  by_cases htag : tag = ""
  · subst htag
    refine iff_of_false (by simp) ?_
    rintro ⟨⟨hfilled, -⟩, -⟩
    exact hfilled rfl
  · rw [if_neg (by simpa using htag)]
    exact find_eq_some_iff fun t => bears_iff htag

theorem tagged_eq_none_iff {ts : List Template} {tag : String} :
    (if tag.isEmpty then none else ts.find? (·.matchesTag tag)) = none ↔ ¬ Borne ts tag := by
  by_cases htag : tag = ""
  · subst htag
    refine iff_of_true (by simp) ?_
    rintro ⟨t, -, hfilled, -⟩
    exact hfilled rfl
  · rw [if_neg (by simpa using htag), find_eq_none_iff fun t => bears_iff htag]
    simp only [Borne, not_exists, not_and]

theorem FirstIn.borne {ts : List Template} {tag : String} {t : Template} (h : FirstIn (·.Bears tag) ts t) :
    Borne ts tag := by
  obtain ⟨hbears, front, back, rfl, -⟩ := h
  exact ⟨t, by simp, hbears⟩

theorem byTags_eq_some_iff {ts : List Template} {tags : List String} {t : Template} :
    byTags ts tags = some t ↔ ∃ tag, FirstIn (Borne ts) tags tag ∧ FirstIn (·.Bears tag) ts t := by
  unfold byTags
  rw [List.findSome?_eq_some_iff]
  simp only [tagged_eq_some_iff, tagged_eq_none_iff]
  constructor
  · rintro ⟨front, tag, back, htags, ht, hfront⟩
    exact ⟨tag, ⟨ht.borne, front, back, htags, hfront⟩, ht⟩
  · rintro ⟨tag, ⟨-, front, back, htags, hfront⟩, ht⟩
    exact ⟨front, tag, back, htags, ht, hfront⟩

theorem byTags_eq_none_iff {ts : List Template} {tags : List String} :
    byTags ts tags = none ↔ ∀ tag ∈ tags, ¬ Borne ts tag := by
  unfold byTags
  rw [List.findSome?_eq_none_iff]
  simp only [tagged_eq_none_iff]

/-! ## The choice -/

theorem choose_eq_some_iff {ts : List Template} {tags : List String} {word : String} {t : Template} :
    choose ts tags word = some t ↔ Chosen ts tags word t := by
  unfold choose
  rw [Option.or_eq_some_iff, Option.or_eq_some_iff, byTags_eq_some_iff, byTags_eq_none_iff,
    find_eq_some_iff (isHouse_iff word), find_eq_none_iff (isHouse_iff word)]
  constructor
  · rintro (⟨tag, htag, ht⟩ | ⟨htags, hhouse | ⟨hhouse, hhead⟩⟩)
    · exact .tagged htag ht
    · exact .house htags hhouse
    · obtain ⟨rest, hts⟩ := List.head?_eq_some_iff.mp hhead
      exact .first htags hhouse hts
  · intro h
    cases h with
    | tagged htag ht => exact Or.inl ⟨_, htag, ht⟩
    | house htags ht => exact Or.inr ⟨htags, Or.inl ht⟩
    | first htags hhouse hts => exact Or.inr ⟨htags, Or.inr ⟨hhouse, by rw [hts, List.head?_cons]⟩⟩

theorem choose_eq_none_iff {ts : List Template} {tags : List String} {word : String} :
    choose ts tags word = none ↔ ts = [] := by
  cases ts with
  | nil =>
    refine iff_of_true ?_ rfl
    have hnone : byTags [] tags = none := byTags_eq_none_iff.mpr fun tag _ => by rintro ⟨t, ht, -⟩; cases ht
    unfold choose
    rw [hnone]
    rfl
  | cons t rest =>
    refine iff_of_false ?_ (List.cons_ne_nil t rest)
    unfold choose
    simp

theorem FirstIn.append {α : Type} {P : α → Prop} {xs : List α} {x : α} (h : FirstIn P xs x) (more : List α) :
    FirstIn P (xs ++ more) x := by
  obtain ⟨hx, front, back, rfl, hfront⟩ := h
  exact ⟨hx, front, back ++ more, by rw [List.append_assoc, List.cons_append], hfront⟩

theorem exists_firstIn {α : Type} {P : α → Prop} {xs : List α} (h : ∃ x ∈ xs, P x) : ∃ x, FirstIn P xs x := by
  classical
  cases hfind : xs.find? (fun x => decide (P x)) with
  | none =>
    obtain ⟨x, hx, hp⟩ := h
    exact absurd hp ((find_eq_none_iff fun x => decide_eq_true_iff).mp hfind x hx)
  | some x => exact ⟨x, (find_eq_some_iff fun x => decide_eq_true_iff).mp hfind⟩

/-- The choice of the first tag that is borne stays, unless a tag before it is borne by one of the new templates. -/
theorem choose_append {ts : List Template} {front back : List String} {tag : String} (htag : Borne ts tag)
    {more : List Template} (hfront : ∀ early ∈ front, ¬ Borne (ts ++ more) early) (word : String) :
    choose (ts ++ more) (front ++ tag :: back) word = choose ts (front ++ tag :: back) word := by
  have hold : ∀ early ∈ front, ¬ Borne ts early := by
    rintro early hearly ⟨t, ht, hbears⟩
    exact hfront early hearly ⟨t, List.mem_append_left more ht, hbears⟩
  have hnew : Borne (ts ++ more) tag := by
    obtain ⟨t, ht, hbears⟩ := htag
    exact ⟨t, List.mem_append_left more ht, hbears⟩
  obtain ⟨t, ht⟩ := exists_firstIn htag
  -- both lists of templates choose this one, since the new templates stand behind it
  have hbefore : choose ts (front ++ tag :: back) word = some t :=
    choose_eq_some_iff.mpr (.tagged ⟨htag, front, back, rfl, hold⟩ ht)
  have hafter : choose (ts ++ more) (front ++ tag :: back) word = some t :=
    choose_eq_some_iff.mpr (.tagged ⟨hnew, front, back, rfl, hfront⟩ (ht.append more))
  rw [hbefore, hafter]

/-- A tag that no template bears, an empty one among them, may stand anywhere. -/
theorem choose_insert {ts : List Template} {tag : String} (htag : ¬ Borne ts tag) (front back : List String)
    (word : String) : choose ts (front ++ tag :: back) word = choose ts (front ++ back) word := by
  have hbyTags : byTags ts (front ++ tag :: back) = byTags ts (front ++ back) := by
    unfold byTags
    rw [List.findSome?_append, List.findSome?_append, List.findSome?_cons, tagged_eq_none_iff.mpr htag]
  unfold choose
  rw [hbyTags]

/-- **The choice of a template is lexicographic.** The first tag that any template bears decides, by the first template
that bears it; where there is none, the first template of the house is chosen, else the first of all. Nothing is chosen
only from an empty list. More templates at the end change a choice by a tag only if an earlier tag is borne by one of
them, and tags that no template bears have no effect. -/
theorem choose_lexicographic (ts : List Template) (tags : List String) (word : String) :
    (∀ t, choose ts tags word = some t ↔ Chosen ts tags word t) ∧
    (choose ts tags word = none ↔ ts = []) ∧
    (∀ front tag back more, tags = front ++ tag :: back → Borne ts tag →
      (∀ early ∈ front, ¬ Borne (ts ++ more) early) → choose (ts ++ more) tags word = choose ts tags word) ∧
    ∀ front tag back, tags = front ++ back → tag = "" ∨ ¬ Borne ts tag →
      choose ts (front ++ tag :: back) word = choose ts tags word := by
  refine ⟨fun t => choose_eq_some_iff, choose_eq_none_iff, ?more, ?inserted⟩
  case more =>
    rintro front tag back more rfl htag hfront
    exact choose_append htag hfront word
  case inserted =>
    rintro front tag back rfl htag
    refine choose_insert ?_ front back word
    rintro ⟨t, ht, hfilled, hoccurs⟩
    rcases htag with hempty | hnone
    · exact hfilled hempty
    · exact hnone ⟨t, ht, hfilled, hoccurs⟩

/-- The second tag decides, though the third is borne by an earlier template. -/
example : (choose fallback ["rust", "JUPYTER", "node"] "keruta").map (·.id) = some "python-datascience" := by
  decide +kernel

theorem choose_lexicographic_jupyter :
    let lab : Template := ⟨"lab", "jupyter-lab", "Jupyter Lab", "", plainIcon, false, hour, 0⟩
    (Borne fallback "JUPYTER" ∧ ∀ early ∈ ["rust", ""], ¬ Borne (fallback ++ [lab]) early) ∧
      choose (fallback ++ [lab]) ["rust", "", "JUPYTER", "node"] "keruta" =
        choose fallback ["rust", "", "JUPYTER", "node"] "keruta" ∧
      (¬ Borne fallback "rust" ∧
        choose fallback ["JUPYTER", "rust", "node"] "keruta" = choose fallback ["JUPYTER", "node"] "keruta") := by
  intro lab
  have htag : Borne fallback "JUPYTER" := by decide +kernel
  have hearly : ∀ early ∈ ["rust", ""], ¬ Borne (fallback ++ [lab]) early := by decide +kernel
  have hrust : ¬ Borne fallback "rust" := by decide +kernel
  have hmore := (choose_lexicographic fallback ["rust", "", "JUPYTER", "node"] "keruta").2.2.1
  have hinserted := (choose_lexicographic fallback ["JUPYTER", "node"] "keruta").2.2.2
  exact ⟨⟨htag, hearly⟩, hmore ["rust", ""] "JUPYTER" ["node"] [lab] rfl htag hearly, hrust,
    hinserted ["JUPYTER"] "rust" ["node"] rfl (Or.inr hrust)⟩

end Template

end SessionKeeper

import Mathlib.Tactic.Common
import SessionKeeper.Field

/-!
# Inputs that are checked

A value that cannot be read has one problem, which concerns the value as a whole. Fields that are read together keep
the issues of each, in their order.

* `Checked.of_seq`, `Checked.forall_seq`, `Checked.of_optional`, `Checked.toExcept_eq_ok` : the parts of a value that
  was read.
* `Checked.issues`, `Checked.issues_seq` : the issues of values that are read together.
* `Checked.Explained`, `Checked.Whole` : a failure has an issue; it has just one, without a place.
-/

namespace SessionKeeper

variable {α β : Type}

namespace Checked

variable {c : Checked α}

/-! ## Values -/

theorem of_seq {f : Checked (α → β)} {x : Checked α} {b : β} (h : (f <*> x) = .ok b) :
    ∃ g a, f = .ok g ∧ x = .ok a ∧ g a = b := by
  have hseq : f.seq x = .ok b := h
  cases f with
  | bad is => cases x <;> cases hseq
  | ok g =>
    cases x with
    | bad is => cases hseq
    | ok a => exact ⟨g, a, rfl, rfl, ok.inj hseq⟩

theorem of_map {f : α → β} {x : Checked α} {b : β} (h : (f <$> x) = .ok b) : ∃ a, x = .ok a ∧ f a = b := by
  have hmap : x.map f = .ok b := h
  cases x with
  | bad is => cases hmap
  | ok a => exact ⟨a, rfl, ok.inj hmap⟩

theorem forall_seq {f : Checked (α → β)} {x : Checked α} {P : β → Prop}
    (h : ∀ g, f = .ok g → ∀ a, x = .ok a → P (g a)) : ∀ b, (f <*> x) = .ok b → P b := by
  intro b hb
  obtain ⟨g, a, hg, ha, rfl⟩ := of_seq hb
  exact h g hg a ha

theorem of_optional {fields : Named β} {names : List String} {default a : α} {read : β → Checked α}
    (h : fields.optional names default read = .ok a) : a = default ∨ ∃ v, read v = .ok a := by
  unfold Named.optional at h
  cases hfind : fields.find names with
  | none =>
    rw [hfind] at h
    exact Or.inl (ok.inj h).symm
  | some found =>
    obtain ⟨name, v⟩ := found
    rw [hfind] at h
    cases hread : read v with
    | bad is =>
      simp only [hread] at h
      cases h
    | ok b =>
      simp only [hread] at h
      exact Or.inr ⟨v, hread.trans h⟩

theorem toExcept_eq_ok {ε : Type} {f : List Issue → ε} {a : α} : c.toExcept f = .ok a ↔ c = .ok a := by
  cases c <;> simp [toExcept]

theorem toExcept_eq_error {ε : Type} {f : List Issue → ε} {e : ε} :
    c.toExcept f = .error e ↔ ∃ issues, c = .bad issues ∧ f issues = e := by
  cases c <;> simp [toExcept]

/-! ## Issues -/

def issues : Checked α → List Issue
  | ok _ => []
  | bad is => is

def isOk : Checked α → Bool
  | ok _ => true
  | bad _ => false

def places (c : Checked α) : List (List Place) := c.issues.map Issue.place

/-- What could not be read has an issue. -/
def Explained (c : Checked α) : Prop := ∀ is, c = .bad is → is ≠ []

/-- What could not be read has a single issue, which concerns all of it. -/
def Whole (c : Checked α) : Prop := (∃ a, c = .ok a) ∨ ∃ p, c = .problem p

theorem issues_map (f : α → β) (c : Checked α) : (f <$> c).issues = c.issues := by
  cases c <;> rfl

theorem issues_seq (f : Checked (α → β)) (c : Checked α) : (f <*> c).issues = f.issues ++ c.issues := by
  cases f <;> cases c <;> simp [issues, Seq.seq, seq]

theorem places_under (p : Place) (c : Checked α) : (c.under p).places = c.places.map (p :: ·) := by
  cases c with
  | ok a => rfl
  | bad is => simp [places, issues, under, Issue.under]

theorem Explained.ok_iff (h : c.Explained) : (∃ a, c = .ok a) ↔ c.issues = [] := by
  cases c with
  | ok a => simp [issues]
  | bad is =>
    have hfilled := h is rfl
    simp [issues, hfilled]

theorem Explained.map (h : c.Explained) (f : α → β) : (f <$> c).Explained := by
  cases c with
  | ok a => exact nofun
  | bad is => rintro _ ⟨⟩; exact h is rfl

theorem Explained.under (h : c.Explained) (p : Place) : (c.under p).Explained := by
  cases c with
  | ok a => exact nofun
  | bad is => rintro _ ⟨⟩; simpa using h is rfl

theorem Explained.seq {f : Checked (α → β)} (hf : f.Explained) (h : c.Explained) : (f <*> c).Explained := by
  intro is hbad
  have hissues := issues_seq f c
  rw [hbad] at hissues
  rintro rfl
  obtain ⟨hf', hc'⟩ := List.append_eq_nil_iff.mp hissues.symm
  obtain ⟨g, rfl⟩ := hf.ok_iff.mpr hf'
  obtain ⟨a, rfl⟩ := h.ok_iff.mpr hc'
  cases hbad

namespace Whole

theorem ok (a : α) : Whole (.ok a) := Or.inl ⟨a, rfl⟩

theorem problem (p : Problem) : Whole (.problem p : Checked α) := Or.inr ⟨p, rfl⟩

theorem map (h : c.Whole) (f : α → β) : (c.map f).Whole := by
  rcases h with ⟨a, rfl⟩ | ⟨p, rfl⟩
  · exact .ok (f a)
  · exact .problem p

theorem ite {p : Prop} [Decidable p] {c d : Checked α} (hc : c.Whole) (hd : d.Whole) : (if p then c else d).Whole := by
  split_ifs
  · exact hc
  · exact hd

theorem explained (h : c.Whole) : c.Explained := by
  rcases h with ⟨a, rfl⟩ | ⟨p, rfl⟩
  · exact nofun
  · rintro _ ⟨⟩; exact List.cons_ne_nil _ _

theorem places_eq (h : c.Whole) : c.places = if c.isOk then [] else [[]] := by
  rcases h with ⟨a, rfl⟩ | ⟨p, rfl⟩ <;> rfl

end Whole

end Checked

end SessionKeeper

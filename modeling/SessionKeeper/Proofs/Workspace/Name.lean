import Mathlib.Data.List.Basic
import Mathlib.Tactic.Common
import SessionKeeper.Proofs.Decimal.Digits
import SessionKeeper.Workspace.Name

/-!
# Names that are given, and names that are recognised

The names of new workspaces are written by one function and read by another; here the two are shown to
agree.

* `Text.lowerChars_safe` : lower case changes nothing in a name.
* `WorkspaceName.belongs_generate` : a generated name belongs to its session, whatever the template.
-/

namespace SessionKeeper

open Text Ownership

/-! ## Safe characters -/

theorem Ownership.isNameSafe_cases {c : Char} (h : isNameSafe c = true) :
    ('a' ≤ c ∧ c ≤ 'z') ∨ ('0' ≤ c ∧ c ≤ '9') ∨ c = '_' ∨ c = '-' := by
  simp only [isNameSafe, Bool.or_eq_true, Bool.and_eq_true, decide_eq_true_eq] at h
  tauto

theorem Ownership.isNameSafe_code {c : Char} (h : isNameSafe c = true) :
    c.toNat < 128 ∧ ¬ (65 ≤ c.toNat ∧ c.toNat ≤ 90) := by
  have hle {a b : Char} (hab : a ≤ b) : a.toNat ≤ b.toNat := hab
  rcases isNameSafe_cases h with ⟨hlow, hhigh⟩ | ⟨hlow, hhigh⟩ | rfl | rfl
  · have hlow : 97 ≤ c.toNat := hle hlow
    have hhigh : c.toNat ≤ 122 := hle hhigh
    omega
  · have hlow : 48 ≤ c.toNat := hle hlow
    have hhigh : c.toNat ≤ 57 := hle hhigh
    omega
  · decide
  · decide

theorem WorkspaceName.isNameSafe_of_isPlain {c : Char} (h : isPlain c = true) : isNameSafe c = true := by
  simp only [isPlain, isNameSafe, Bool.or_eq_true] at h ⊢
  tauto

namespace Text

theorem lowerChar_safe {c : Char} (h : isNameSafe c = true) : lowerChar c = [c] := by
  obtain ⟨hbasic, hcapital⟩ := isNameSafe_code h
  have hlower : c.toLower = c := by
    unfold Char.toLower
    rw [dif_neg]
    rintro ⟨hlow, hhigh⟩
    exact hcapital ⟨hlow, hhigh⟩
  unfold lowerChar
  rw [if_pos hbasic, hlower]

theorem lowerFrom_safe {cs : List Char} (h : ∀ c ∈ cs, isNameSafe c = true) (inWord : Bool) :
    lowerFrom inWord cs = cs := by
  induction cs generalizing inWord with
  | nil => rfl
  | cons c cs ih =>
    have hc : isNameSafe c = true := h c List.mem_cons_self
    have hsigma : c ≠ 'Σ' := by
      rintro rfl
      exact absurd hc (by decide)
    rw [lowerFrom, if_neg hsigma, lowerChar_safe hc, ih fun d hd => h d (List.mem_cons_of_mem c hd)]
    rfl

theorem lowerChars_safe {cs : List Char} (h : ∀ c ∈ cs, isNameSafe c = true) : lowerChars cs = cs :=
  lowerFrom_safe h false

end Text

namespace WorkspaceName

/-! ## The parts of a generated name -/

theorem shortChars_safe (id : List Char) : ∀ c ∈ shortChars id, isNameSafe c = true := by
  intro c hc
  unfold shortChars orWord at hc
  split at hc
  · have hword : "session".toList.all isNameSafe = true := by decide
    exact List.all_eq_true.mp hword c hc
  · exact (List.mem_filter.mp hc).2

theorem labelChars_plain (name : List Char) : ∀ c ∈ labelChars name, isPlain c = true := by
  intro c hc
  unfold labelChars orWord at hc
  split at hc
  · have hword : "session".toList.all isPlain = true := by decide
    exact List.all_eq_true.mp hword c hc
  · exact (List.mem_filter.mp (List.mem_of_mem_take hc)).2

theorem suffixChars_digit (time : Int) : ∀ c ∈ suffixChars time, c.isDigit = true :=
  fun _ hc => Decimal.isDigit_of_mem_padded hc

theorem suffix_lt (time : Int) : (time.fmod 10000).toNat < 10000 := by
  have hnonneg := Int.fmod_nonneg_of_pos time (b := 10000) (by decide)
  have hlt := Int.fmod_lt_of_pos time (b := 10000) (by decide)
  omega

theorem suffixChars_length (time : Int) : (suffixChars time).length = 4 :=
  Decimal.length_padded (by decide) (suffix_lt time)

theorem ofDigitChars_suffixChars (time : Int) :
    Nat.ofDigitChars 10 (suffixChars time) 0 = (time.fmod 10000).toNat := Decimal.ofDigitChars_padded 4 _

theorem isNameSafe_of_isDigit {c : Char} (h : c.isDigit = true) : isNameSafe c = true := by
  simp only [Char.isDigit, Bool.and_eq_true, decide_eq_true_eq] at h
  have hlow : '0' ≤ c := h.1
  have hhigh : c ≤ '9' := h.2
  simp [isNameSafe, hlow, hhigh]

theorem generateChars_safe (id name : List Char) (time : Int) :
    ∀ c ∈ generateChars id name time, isNameSafe c = true := by
  intro c hc
  unfold generateChars stemChars at hc
  simp only [List.mem_append, List.mem_cons, List.not_mem_nil, or_false] at hc
  rcases hc with (((hfront | hshort) | rfl) | hlabel) | rfl | htime
  · have hword : "ws-".toList.all isNameSafe = true := by decide
    exact List.all_eq_true.mp hword c hfront
  · exact shortChars_safe id c hshort
  · decide
  · exact isNameSafe_of_isPlain (labelChars_plain name c hlabel)
  · decide
  · exact isNameSafe_of_isDigit (suffixChars_digit time c htime)

/-! ## Recognising a generated name -/

theorem lower_generate (id name : String) (time : Int) : lower (generate id name time) = generate id name time := by
  unfold lower generate
  rw [String.toList_ofList, lowerChars_safe (generateChars_safe id.toList name.toList time)]

/-- What has a generated name, letter case aside, belongs to the session of the name. -/
theorem belongs_of_lower_eq {id name found : String} {time : Int} (hid : id ≠ "")
    (hfound : lower found = generate id name time) (template : String) : belongs id found template = true := by
  have hchars : lowerChars found.toList = generateChars id.toList name.toList time := by
    have h := congrArg String.toList hfound
    rwa [lower, generate, String.toList_ofList, String.toList_ofList] at h
  have hstem : (stemChars id.toList).isPrefixOf (lowerChars found.toList) = true := by
    rw [hchars, List.isPrefixOf_iff_prefix, generateChars, List.append_assoc]
    exact List.prefix_append _ _
  have hfilled : id.toList.isEmpty = false := by
    rw [List.isEmpty_eq_false_iff]
    intro h
    exact hid (String.toList_eq_nil_iff.mp h)
  unfold belongs belongsChars
  rw [hfilled, hstem, Bool.or_true]
  rfl

theorem belongs_generate {id : String} (hid : id ≠ "") (name : String) (time : Int) (template : String) :
    belongs id (generate id name time) template = true :=
  belongs_of_lower_eq hid (lower_generate id name time) template

end WorkspaceName

end SessionKeeper

import Mathlib.Data.List.Forall2
import Mathlib.Data.List.TakeWhile
import Mathlib.Tactic.Common
import SessionKeeper.Text.Blank
import SessionKeeper.Text.Casing

/-!
# Letter case and what stands around it

Lower case of a text is not made character by character: a capital sigma looks at what stands in front of it and
behind it. Every other character has a lower case of its own, and which ASCII letters are capitals does not show in
lower case at all.

* `lowerFrom_append`, `lowerChars_infix` : lower case of a part of a text.
* `not_mem_sigma` : text that has lower case in ASCII holds no capital sigma.
* `SameLetters` : the same text but for the case of ASCII letters; `SameLetters.lowerFrom_eq` : its lower case.
* `SameWord`, `SameWord.lower_strip_eq` : the same but for the white space around it, too.
-/

namespace SessionKeeper.Text

open Casing

/-! ## Parts of a text -/

/-- Lower case of what stands in front comes first, though its end may depend on what follows. -/
theorem lowerFrom_append (inWord : Bool) (front cs : List Char) :
    ∃ lowered after, lowerFrom inWord (front ++ cs) = lowered ++ lowerFrom after cs := by
  induction front generalizing inWord with
  | nil => exact ⟨[], inWord, rfl⟩
  | cons c front ih =>
    obtain ⟨lowered, after, hrest⟩ := ih (if isTransparent c then inWord else isCased c)
    refine ⟨(if c = 'Σ' then [lowerSigma inWord (front ++ cs)] else lowerChar c) ++ lowered, after, ?_⟩
    rw [List.cons_append, lowerFrom, hrest, List.append_assoc]

theorem lowerFrom_plain {cs : List Char} (h : 'Σ' ∉ cs) (inWord : Bool) (rest : List Char) :
    ∃ after, lowerFrom inWord (cs ++ rest) = cs.flatMap lowerChar ++ lowerFrom after rest := by
  induction cs generalizing inWord with
  | nil => exact ⟨inWord, rfl⟩
  | cons c cs ih =>
    rw [List.mem_cons, not_or] at h
    obtain ⟨after, hrest⟩ := ih h.2 (if isTransparent c then inWord else isCased c)
    refine ⟨after, ?_⟩
    rw [List.cons_append, lowerFrom, if_neg (Ne.symm h.1), hrest, List.flatMap_cons, List.append_assoc]

theorem lowerChars_plain {cs : List Char} (h : 'Σ' ∉ cs) : lowerChars cs = cs.flatMap lowerChar := by
  obtain ⟨after, hall⟩ := lowerFrom_plain h false []
  rw [List.append_nil, lowerFrom, List.append_nil] at hall
  exact hall

/-- Lower case of a text holds that of each part without a capital sigma, whatever stands around the part. -/
theorem lowerChars_infix {cs : List Char} (h : 'Σ' ∉ cs) (front rest : List Char) :
    lowerChars cs <:+: lowerChars (front ++ cs ++ rest) := by
  obtain ⟨lowered, inWord, hfront⟩ := lowerFrom_append false front (cs ++ rest)
  obtain ⟨after, hpart⟩ := lowerFrom_plain h inWord rest
  refine ⟨lowered, lowerFrom after rest, ?_⟩
  rw [lowerChars_plain h, lowerChars, List.append_assoc front, hfront, hpart, List.append_assoc]

theorem not_mem_sigma {cs : List Char} (h : ∀ c ∈ lowerChars cs, c.toNat < 128) : 'Σ' ∉ cs := by
  intro hmem
  obtain ⟨front, rest, rfl⟩ := List.append_of_mem hmem
  obtain ⟨lowered, after, hlower⟩ := lowerFrom_append false front ('Σ' :: rest)
  have hsigma : lowerSigma after rest ∈ lowerChars (front ++ 'Σ' :: rest) := by
    rw [lowerChars, hlower, lowerFrom, if_pos rfl]
    simp
  have hcode := h _ hsigma
  unfold lowerSigma at hcode
  split_ifs at hcode <;> exact absurd hcode (by decide)

/-! ## ASCII letters -/

theorem code_toLower_lt {c : Char} (h : c.toNat < 128) : c.toLower.toNat < 128 := by
  have hall : ∀ n < 128, (Char.ofNat n).toLower.toNat < 128 := by decide +kernel
  simpa using hall c.toNat h

theorem code_lowerChars_lt {cs : List Char} (h : ∀ c ∈ cs, c.toNat < 128) : ∀ c ∈ lowerChars cs, c.toNat < 128 := by
  have hsigma : 'Σ' ∉ cs := fun hmem => absurd (h _ hmem) (by decide)
  intro c hc
  rw [lowerChars_plain hsigma] at hc
  obtain ⟨d, hd, hlower⟩ := List.mem_flatMap.mp hc
  rw [lowerChar, if_pos (h d hd), List.mem_singleton] at hlower
  subst hlower
  exact code_toLower_lt (h d hd)

theorem isAlpha_iff {c : Char} :
    c.isAlpha = true ↔ (65 ≤ c.toNat ∧ c.toNat ≤ 90) ∨ (97 ≤ c.toNat ∧ c.toNat ≤ 122) := by
  show (decide (c.val ≥ 'A'.val ∧ c.val ≤ 'Z'.val) || (decide (c.val ≥ 'a'.val) && decide (c.val ≤ 'z'.val))) = true ↔ _
  simp only [Bool.or_eq_true, Bool.and_eq_true, decide_eq_true_eq, ge_iff_le, UInt32.le_iff_toNat_le]
  rfl

theorem code_toLower (c : Char) :
    c.toLower.toNat = if 65 ≤ c.toNat ∧ c.toNat ≤ 90 then c.toNat + 32 else c.toNat := by
  have hcapital : (c.val ≥ 'A'.val ∧ c.val ≤ 'Z'.val) ↔ 65 ≤ c.toNat ∧ c.toNat ≤ 90 := by
    simp only [ge_iff_le, UInt32.le_iff_toNat_le]
    rfl
  unfold Char.toLower
  split_ifs with hletter hcode hcode
  · have hdistance : ('a'.val - 'A'.val).toNat = 32 := by decide
    have hval : c.val.toNat = c.toNat := rfl
    rw [Char.toNat_mk, UInt32.toNat_add, hdistance, hval]
    omega
  · exact absurd (hcapital.mp hletter) hcode
  · exact absurd (hcapital.mpr hcode) hletter
  · rfl

theorem eq_or_isAlpha {c d : Char} (h : c.toLower = d.toLower) : c = d ∨ c.isAlpha = true ∧ d.isAlpha = true := by
  rw [← Char.toNat_inj, code_toLower, code_toLower] at h
  rw [isAlpha_iff, isAlpha_iff, ← Char.toNat_inj]
  split_ifs at h <;> omega

/-- Letters stop the search for the end of a word, and none of them is white space. -/
theorem of_isAlpha {c : Char} (h : c.isAlpha = true) :
    c.toNat < 128 ∧ isTransparent c = false ∧ isCased c = true ∧ isBlank c = false := by
  have hbasic : c.toNat < 128 := by
    have hcode := isAlpha_iff.mp h
    omega
  have hall : ∀ n < 128, (Char.ofNat n).isAlpha = true →
      isTransparent (Char.ofNat n) = false ∧ isCased (Char.ofNat n) = true ∧ isBlank (Char.ofNat n) = false := by
    decide +kernel
  have hclass := hall c.toNat hbasic
  rw [Char.ofNat_toNat] at hclass
  exact ⟨hbasic, hclass h⟩

/-! ## Texts that differ in the case of letters -/

theorem continues_cons (c : Char) (rest : List Char) :
    continues (c :: rest) = if isTransparent c then continues rest else isCased c := by
  unfold continues
  rw [List.dropWhile_cons]
  split_ifs <;> rfl

/-- Character by character the same text, but for the case of ASCII letters. -/
def SameLetters (cs ds : List Char) : Prop := List.Forall₂ (fun c d => c.toLower = d.toLower) cs ds

instance (cs ds : List Char) : Decidable (SameLetters cs ds) :=
  inferInstanceAs (Decidable (List.Forall₂ (fun c d => c.toLower = d.toLower) cs ds))

section Letters

variable {c d : Char} (h : c.toLower = d.toLower)

include h

theorem lowerChar_congr : lowerChar c = lowerChar d := by
  rcases eq_or_isAlpha h with rfl | ⟨hc, hd⟩
  · rfl
  · rw [lowerChar, lowerChar, if_pos (of_isAlpha hc).1, if_pos (of_isAlpha hd).1, h]

theorem isTransparent_congr : isTransparent c = isTransparent d := by
  rcases eq_or_isAlpha h with rfl | ⟨hc, hd⟩
  · rfl
  · rw [(of_isAlpha hc).2.1, (of_isAlpha hd).2.1]

theorem isCased_congr : isCased c = isCased d := by
  rcases eq_or_isAlpha h with rfl | ⟨hc, hd⟩
  · rfl
  · rw [(of_isAlpha hc).2.2.1, (of_isAlpha hd).2.2.1]

theorem isBlank_congr : isBlank c = isBlank d := by
  rcases eq_or_isAlpha h with rfl | ⟨hc, hd⟩
  · rfl
  · rw [(of_isAlpha hc).2.2.2, (of_isAlpha hd).2.2.2]

theorem eq_sigma_congr : c = 'Σ' ↔ d = 'Σ' := by
  rcases eq_or_isAlpha h with rfl | ⟨hc, hd⟩
  · rfl
  · refine iff_of_false ?_ ?_
    · rintro rfl
      exact absurd hc (by decide)
    · rintro rfl
      exact absurd hd (by decide)

end Letters

namespace SameLetters

variable {cs ds : List Char}

theorem dropWhile {p : Char → Bool} (hp : ∀ {c d : Char}, c.toLower = d.toLower → p c = p d) (h : SameLetters cs ds) :
    SameLetters (cs.dropWhile p) (ds.dropWhile p) := by
  unfold SameLetters at h ⊢
  induction h with
  | nil => exact .nil
  | cons hcd hrest ih =>
    rw [List.dropWhile_cons, List.dropWhile_cons, hp hcd]
    split_ifs
    · exact ih
    · exact .cons hcd hrest

theorem reverse (h : SameLetters cs ds) : SameLetters cs.reverse ds.reverse := List.rel_reverse h

theorem trimBy_isBlank (h : SameLetters cs ds) : SameLetters (trimBy isBlank cs) (trimBy isBlank ds) :=
  ((h.dropWhile isBlank_congr).reverse.dropWhile isBlank_congr).reverse

theorem continues_eq (h : SameLetters cs ds) : continues cs = continues ds := by
  unfold SameLetters at h
  induction h with
  | nil => rfl
  | cons hcd _ ih => rw [continues_cons, continues_cons, isTransparent_congr hcd, isCased_congr hcd, ih]

/-- Lower case does not show which letters are capitals, not even through the sigmas around them. -/
theorem lowerFrom_eq (h : SameLetters cs ds) (inWord : Bool) : lowerFrom inWord cs = lowerFrom inWord ds := by
  unfold SameLetters at h
  induction h generalizing inWord with
  | nil => rfl
  | cons hcd hrest ih =>
    simp only [lowerFrom, lowerSigma, eq_sigma_congr hcd, lowerChar_congr hcd, isTransparent_congr hcd,
      isCased_congr hcd, continues_eq hrest, ih]

theorem lowerChars_eq (h : SameLetters cs ds) : lowerChars cs = lowerChars ds := h.lowerFrom_eq false

end SameLetters

/-! ## White space around a text -/

theorem trimBy_surrounded {p : Char → Bool} {front back : List Char} (hfront : ∀ c ∈ front, p c = true)
    (hback : ∀ c ∈ back, p c = true) (word : List Char) : trimBy p (front ++ word ++ back) = trimBy p word := by
  unfold trimBy trimEnd
  rw [List.append_assoc, List.dropWhile_append_of_pos hfront, List.dropWhile_append]
  split_ifs with hword
  · rw [List.isEmpty_iff] at hword
    rw [hword, List.dropWhile_eq_nil_iff.mpr hback]
  · rw [List.reverse_append, List.dropWhile_append_of_pos fun c hc => hback c (List.mem_reverse.mp hc)]

/-- The text is the word with white space around it, if any. -/
def Surrounds (s : String) (word : List Char) : Prop :=
  ∃ front back, s.toList = front ++ word ++ back ∧ (∀ c ∈ front, isBlank c = true) ∧ ∀ c ∈ back, isBlank c = true

theorem surrounds_self (s : String) : Surrounds s s.toList := by
  refine ⟨[], [], ?_, nofun, nofun⟩
  rw [List.nil_append, List.append_nil]

/-- The texts differ only in the white space around them and in the case of ASCII letters. -/
def SameWord (s t : String) : Prop := ∃ word word', Surrounds s word ∧ Surrounds t word' ∧ SameLetters word word'

theorem toList_strip {s : String} {word : List Char} (h : Surrounds s word) :
    (strip s).toList = trimBy isBlank word := by
  obtain ⟨front, back, htext, hfront, hback⟩ := h
  rw [strip, String.toList_ofList, htext, trimBy_surrounded hfront hback]

theorem SameWord.lower_strip_eq {s t : String} (h : SameWord s t) : lower (strip s) = lower (strip t) := by
  obtain ⟨word, word', hs, ht, hletters⟩ := h
  rw [lower, lower, toList_strip hs, toList_strip ht, hletters.trimBy_isBlank.lowerChars_eq]

end SessionKeeper.Text

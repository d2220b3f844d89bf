import SessionKeeper.Proofs.Text.Casing
import SessionKeeper.Proofs.Workspace.Length

/-!
# A workspace that carries the id of a session

Names and ids are compared in lower case, which depends on what stands around a character. An id in ASCII is found
all the same, wherever it stands and however its letters are written.

* `Recased` : the ways to write a text in another letter case.
* `Ownership.ownsExplicitly_iff` : when the name of a workspace, or of its template, carries the whole id.
* `Ownership.carried_recognised` : a workspace with the id in its name, or in that of its template, is recognised.
-/

namespace SessionKeeper

open Text

/-- The ways to write a text in another letter case: with small letters and capitals of ASCII at will, or with any
characters that come to the same in lower case. -/
inductive Recased (text : String) : String → Prop
  | letters {v : String} (h : SameLetters v.toList text.toList) : Recased text v
  | lowered {v : String} (h : lower v = lower text) : Recased text v

theorem Recased.lowerChars_eq {text v : String} (h : Recased text v) :
    lowerChars v.toList = lowerChars text.toList := by
  cases h with
  | letters h => exact h.lowerChars_eq
  | lowered h => exact String.ofList_inj.mp h

namespace Ownership

variable {id v : String}

/-- The whole id stands in the name, or behind the legacy mark in the name of the template, in whatever case. -/
theorem ownsExplicitly_iff {name template : String} :
    ownsExplicitly id name template = true ↔ id ≠ "" ∧ (lowerChars id.toList <:+: lowerChars name.toList ∨
      legacyMark ++ lowerChars id.toList <:+: lowerChars template.toList) := by
  have hfilled : id.toList.isEmpty = false ↔ id ≠ "" := by
    rw [List.isEmpty_eq_false_iff, ne_eq, String.toList_eq_nil_iff]
  have hmarked (h : legacyMark ++ lowerChars id.toList <+: lowerChars name.toList) :
      lowerChars id.toList <:+: lowerChars name.toList := by
    obtain ⟨rest, hname⟩ := h
    exact ⟨legacyMark, rest, hname⟩
  have htemplate (h : legacyMark ++ lowerChars id.toList <:+: lowerChars template.toList) :
      template.toList.isEmpty = false := by
    rw [List.isEmpty_eq_false_iff]
    intro hnone
    have hlower : lowerChars template.toList = [] := congrArg lowerChars hnone
    rw [hlower, List.infix_nil, List.append_eq_nil_iff] at h
    exact absurd h.1 (by decide)
  unfold ownsExplicitly explicitChars
  simp only [Bool.and_eq_true, Bool.or_eq_true, Bool.not_eq_true', occursIn_iff, List.isPrefixOf_iff_prefix, hfilled]
  tauto

theorem belongs_of_ownsExplicitly {name template : String} (h : ownsExplicitly id name template = true) :
    belongs id name template = true := by
  have hid := (ownsExplicitly_iff.mp h).1
  unfold ownsExplicitly at h
  unfold belongs belongsChars
  rw [h, Bool.true_or, Bool.and_true, Bool.not_eq_true', List.isEmpty_eq_false_iff, ne_eq, String.toList_eq_nil_iff]
  exact hid

section

variable (hbasic : ∀ c ∈ id.toList, c.toNat < 128) (hv : Recased id v)

include hbasic hv

theorem sigma_not_mem : 'Σ' ∉ v.toList := by
  apply not_mem_sigma
  rw [hv.lowerChars_eq]
  exact code_lowerChars_lt hbasic

theorem lowerChars_infix_of_recased (front rest : String) :
    lowerChars id.toList <:+: lowerChars (front ++ v ++ rest).toList := by
  rw [← hv.lowerChars_eq, String.toList_append, String.toList_append]
  exact lowerChars_infix (sigma_not_mem hbasic hv) front.toList rest.toList

theorem marked_infix_of_recased (front rest : String) :
    legacyMark ++ lowerChars id.toList <:+: lowerChars (front ++ "session-" ++ v ++ rest).toList := by
  have hsigma := sigma_not_mem hbasic hv
  have hmarked : 'Σ' ∉ legacyMark ++ v.toList := by
    rw [List.mem_append, not_or]
    exact ⟨by decide, hsigma⟩
  have hmark : legacyMark.flatMap lowerChar = legacyMark := by decide
  have hlower : lowerChars (legacyMark ++ v.toList) = legacyMark ++ lowerChars id.toList := by
    rw [lowerChars_plain hmarked, List.flatMap_append, hmark, ← lowerChars_plain hsigma, hv.lowerChars_eq]
  have htext : (front ++ "session-" ++ v ++ rest).toList = front.toList ++ (legacyMark ++ v.toList) ++ rest.toList := by
    have hword : "session-".toList = legacyMark := rfl
    rw [String.toList_append, String.toList_append, String.toList_append, hword, List.append_assoc front.toList]
  rw [htext, ← hlower]
  exact lowerChars_infix hmarked front.toList rest.toList

end

/-- **What carries the id of a session is recognised**, in whatever letter case and between whatever texts. Let the id
be in ASCII and not empty. Then the session owns each workspace with the id in its name, whatever the template, and
each workspace with the id behind the legacy mark in the name of its template, whatever its own name. -/
theorem carried_recognised (hid : id ≠ "") (hbasic : ∀ c ∈ id.toList, c.toNat < 128) (hv : Recased id v)
    (front rest : String) :
    (∀ template, ownsExplicitly id (front ++ v ++ rest) template = true ∧
      belongs id (front ++ v ++ rest) template = true) ∧
    (∀ name, ownsExplicitly id name (front ++ "session-" ++ v ++ rest) = true ∧
      belongs id name (front ++ "session-" ++ v ++ rest) = true) := by
  refine ⟨fun template => ?_, fun name => ?_⟩
  · have howned : ownsExplicitly id (front ++ v ++ rest) template = true :=
      ownsExplicitly_iff.mpr ⟨hid, Or.inl (lowerChars_infix_of_recased hbasic hv front rest)⟩
    exact ⟨howned, belongs_of_ownsExplicitly howned⟩
  · have howned : ownsExplicitly id name (front ++ "session-" ++ v ++ rest) = true :=
      ownsExplicitly_iff.mpr ⟨hid, Or.inr (marked_infix_of_recased hbasic hv front rest)⟩
    exact ⟨howned, belongs_of_ownsExplicitly howned⟩

/-- The sigma in front ends no word once the id follows it, the dotted letter behind takes two characters in lower
case, and the id begins with the sign of the kelvin. -/
theorem carried_recognised_kelvin :
    "Kid-1" ≠ "" ∧ (∀ c ∈ "Kid-1".toList, c.toNat < 128) ∧ Recased "Kid-1" "\u212aID-1" ∧
      ownsExplicitly "Kid-1" ("ΑΣ" ++ "\u212aID-1" ++ "İΣ") "" = true ∧
      belongs "Kid-1" "box" ("ΑΣ" ++ "session-" ++ "\u212aID-1" ++ "İΣ") = true := by
  have hid : "Kid-1" ≠ "" := by decide
  have hbasic : ∀ c ∈ "Kid-1".toList, c.toNat < 128 := by simp
  have hv : Recased "Kid-1" "\u212aID-1" := .lowered (by decide +kernel)
  obtain ⟨hname, htemplate⟩ := carried_recognised hid hbasic hv "ΑΣ" "İΣ"
  exact ⟨hid, hbasic, hv, (hname "").1, (htemplate "box").2⟩

end Ownership

end SessionKeeper

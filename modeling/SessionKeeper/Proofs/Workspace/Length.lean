import SessionKeeper.Proofs.Workspace.Name

/-!
# A long id does not fit into a generated name

A generated name has at most 27 characters, and lower case never makes a text shorter. So a generated name carries
no id of 28 characters or more, and only the name of the template can.

* `Text.length_le_lowerChars` : lower case does not shorten a text.
* `Ownership.occursIn_iff`, `Ownership.length_le_of_occursIn` : what occurs in a text, and is no longer than it.
* `WorkspaceName.length_generateChars_le` : the length of a generated name.
* `WorkspaceName.ownsExplicitly_generate`, `WorkspaceName.belongs_generate_iff` : how workspaces of generated names
  belong to a session with a long id.
-/

namespace SessionKeeper

open Text Ownership

/-! ## Lower case -/

namespace Text

theorem one_le_lowerChar (c : Char) : 1 ≤ (lowerChar c).length := by
  unfold lowerChar
  split_ifs
  · exact Nat.le_refl 1
  · exact Nat.le_succ 1
  · exact Nat.le_refl 1

theorem length_le_lowerFrom (inWord : Bool) (cs : List Char) : cs.length ≤ (lowerFrom inWord cs).length := by
  induction cs generalizing inWord with
  | nil => exact Nat.le_refl 0
  | cons c cs ih =>
    rw [lowerFrom, List.length_append, List.length_cons]
    have hrest := ih (if Casing.isTransparent c then inWord else Casing.isCased c)
    have hfirst : 1 ≤ (if c = 'Σ' then [lowerSigma inWord cs] else lowerChar c).length := by
      split_ifs
      · exact Nat.le_refl 1
      · exact one_le_lowerChar c
    omega

theorem length_le_lowerChars (cs : List Char) : cs.length ≤ (lowerChars cs).length := length_le_lowerFrom false cs

/-- Lower case may make two characters of one, but then only one of them may stand in a name. -/
theorem safe_lowerChar_le (c : Char) : ((lowerChar c).filter isNameSafe).length ≤ 1 := by
  unfold lowerChar
  split_ifs
  · exact List.length_filter_le _ _
  · decide
  · exact List.length_filter_le _ _

theorem safe_lowerFrom_le (inWord : Bool) (cs : List Char) :
    ((lowerFrom inWord cs).filter isNameSafe).length ≤ cs.length := by
  induction cs generalizing inWord with
  | nil => exact Nat.le_refl 0
  | cons c cs ih =>
    rw [lowerFrom, List.filter_append, List.length_append, List.length_cons]
    have hrest := ih (if Casing.isTransparent c then inWord else Casing.isCased c)
    have hfirst : ((if c = 'Σ' then [lowerSigma inWord cs] else lowerChar c).filter isNameSafe).length ≤ 1 := by
      split_ifs
      · exact List.length_filter_le _ _
      · exact safe_lowerChar_le c
    omega

end Text

/-! ## Occurrence -/

theorem Ownership.occursIn_iff {needle hay : List Char} : occursIn needle hay = true ↔ needle <:+: hay := by
  induction hay with
  | nil => rw [occursIn, List.isEmpty_iff, List.infix_nil]
  | cons c rest ih => rw [occursIn, Bool.or_eq_true, List.isPrefixOf_iff_prefix, ih, List.infix_cons_iff]

theorem Ownership.length_le_of_occursIn {needle hay : List Char} (h : occursIn needle hay = true) :
    needle.length ≤ hay.length := (occursIn_iff.mp h).length_le

namespace WorkspaceName

/-! ## Generated names -/

theorem length_shortChars_le (id : List Char) : (shortChars id).length ≤ 8 := by
  unfold shortChars orWord
  split
  · decide
  · have hsafe := safe_lowerFrom_le false (id.take 8)
    have htaken : (id.take 8).length ≤ 8 := List.length_take_le 8 id
    exact Nat.le_trans hsafe htaken

theorem length_labelChars_le (name : List Char) : (labelChars name).length ≤ 10 := by
  unfold labelChars orWord
  split
  · decide
  · exact List.length_take_le _ _

theorem length_generateChars_le (id name : List Char) (time : Int) : (generateChars id name time).length ≤ 27 := by
  have hshort := length_shortChars_le id
  have hlabel := length_labelChars_le name
  have hsuffix := suffixChars_length time
  have hfront : "ws-".toList.length = 3 := by decide
  unfold generateChars stemChars
  simp only [List.length_append, List.length_cons, List.length_nil, hsuffix, hfront]
  omega

theorem lowerChars_generate (id name : String) (time : Int) :
    lowerChars (generate id name time).toList = (generate id name time).toList := by
  rw [generate, String.toList_ofList, lowerChars_safe (generateChars_safe _ _ _)]

theorem length_generate_le (id name : String) (time : Int) : (generate id name time).toList.length ≤ 27 := by
  rw [generate, String.toList_ofList]
  exact length_generateChars_le id.toList name.toList time

/-! ## Long ids -/

variable {id template : String}

/-- A workspace of a generated name carries a long id only in the name of its template. -/
theorem ownsExplicitly_generate (own label : String) (time : Int) (hid : 28 ≤ id.length)
    (htemplate : occursIn (legacyMark ++ lowerChars id.toList) (lowerChars template.toList) = false) :
    ownsExplicitly id (generate own label time) template = false := by
  have hshort : (lowerChars (generate own label time).toList).length < (lowerChars id.toList).length := by
    have hlower := length_le_lowerChars id.toList
    have hlong : 28 ≤ id.toList.length := hid
    have hgenerated := length_generate_le own label time
    rw [lowerChars_generate]
    omega
  have hwhole : occursIn (lowerChars id.toList) (lowerChars (generate own label time).toList) = false := by
    by_contra hoccurs
    rw [Bool.not_eq_false] at hoccurs
    have hfits := length_le_of_occursIn hoccurs
    omega
  have hlegacy : (legacyMark ++ lowerChars id.toList).isPrefixOf (lowerChars (generate own label time).toList) =
      false := by
    by_contra hbegins
    rw [Bool.not_eq_false, List.isPrefixOf_iff_prefix] at hbegins
    have hfits := hbegins.length_le
    rw [List.length_append] at hfits
    omega
  unfold ownsExplicitly explicitChars
  rw [hwhole, hlegacy, htemplate, Bool.or_false, Bool.and_false, Bool.or_false, Bool.and_false]

theorem belongs_generate_iff (own label : String) (time : Int) (hid : 28 ≤ id.length)
    (htemplate : occursIn (legacyMark ++ lowerChars id.toList) (lowerChars template.toList) = false) :
    belongs id (generate own label time) template = true ↔
      (nameStem id).toList <+: (generate own label time).toList := by
  have hexplicit := ownsExplicitly_generate own label time hid htemplate
  have hfilled : id.toList.isEmpty = false := by
    rw [List.isEmpty_eq_false_iff]
    intro hempty
    have hlong : 28 ≤ id.toList.length := hid
    rw [hempty] at hlong
    cases hlong
  unfold ownsExplicitly at hexplicit
  unfold belongs belongsChars nameStem
  rw [hfilled, hexplicit, lowerChars_generate, String.toList_ofList, Bool.false_or, Bool.not_false, Bool.true_and,
    List.isPrefixOf_iff_prefix]

end WorkspaceName

end SessionKeeper

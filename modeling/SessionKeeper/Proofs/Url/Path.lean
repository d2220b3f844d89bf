import SessionKeeper.Proofs.Url.Escape
import SessionKeeper.Url

/-!
# Paths by their segments

* `Url.pathOf`, `Url.exists_pathOf` : a path that is empty or begins with a slash is its segments.
* `Url.tidy`, `Url.normalPath_pathOf` : the segments that are left in the normal form of a path.
* `Url.weight`, `Url.weight_foldl_le`, `Url.weight_foldl_lt` : segments of points only take octets away.
-/

namespace SessionKeeper.Url

open Text

/-! ## Segments -/

def pathOf (segments : List (List Char)) : List Char := segments.flatMap ('/' :: ·)

/-- No segment holds a slash. -/
def Parted (segments : List (List Char)) : Prop := ∀ s ∈ segments, '/' ∉ s

@[simp] theorem pathOf_nil : pathOf [] = [] := rfl

@[simp] theorem pathOf_cons (s : List Char) (segments : List (List Char)) :
    pathOf (s :: segments) = '/' :: (s ++ pathOf segments) := rfl

@[simp] theorem pathOf_append (xs ys : List (List Char)) : pathOf (xs ++ ys) = pathOf xs ++ pathOf ys :=
  List.flatMap_append

theorem rooted_pathOf (segments : List (List Char)) : Rooted (pathOf segments) := by
  cases segments with
  | nil => exact .nil
  | cons s rest => exact .slash _

def pieces (cs : List Char) : List (List Char) := splitBy (· = '/') cs

theorem pieces_slash (cs : List Char) : pieces ('/' :: cs) = [] :: pieces cs := rfl

theorem pieces_ne_nil (cs : List Char) : pieces cs ≠ [] := by
  unfold pieces
  cases cs with
  | nil => exact nofun
  | cons c cs =>
    rw [splitBy]
    split <;> exact nofun

theorem pieces_cons {c : Char} (hc : c ≠ '/') (cs : List Char) :
    ∃ first rest, pieces cs = first :: rest ∧ pieces (c :: cs) = (c :: first) :: rest := by
  have hmark : decide (c = '/') = false := by simpa using hc
  have hstep : pieces (c :: cs) = match pieces cs with
      | first :: rest => (c :: first) :: rest
      | [] => [[c]] := by
    show splitBy (· = '/') (c :: cs) = _
    rw [splitBy, hmark]
    unfold pieces
    cases splitBy (· = '/') cs <;> rfl
  cases hcs : pieces cs with
  | cons first rest =>
    rw [hcs] at hstep
    exact ⟨first, rest, rfl, hstep⟩
  | nil => exact absurd hcs (pieces_ne_nil cs)

theorem pathOf_pieces (cs : List Char) : pathOf (pieces cs) = '/' :: cs := by
  induction cs with
  | nil => rfl
  | cons c cs ih =>
    by_cases hc : c = '/'
    · subst hc
      rw [pieces_slash, pathOf_cons, ih]
      rfl
    · obtain ⟨first, rest, hcs, hccs⟩ := pieces_cons hc cs
      rw [hcs, pathOf_cons] at ih
      rw [hccs, pathOf_cons, List.cons_append, (List.cons.inj ih).2]

theorem parted_pieces (cs : List Char) : Parted (pieces cs) := by
  induction cs with
  | nil => simp [Parted, pieces, splitBy]
  | cons c cs ih =>
    by_cases hc : c = '/'
    · subst hc
      rw [pieces_slash]
      simpa [Parted] using ih
    · obtain ⟨first, rest, hcs, hccs⟩ := pieces_cons hc cs
      rw [hcs] at ih
      rw [hccs]
      have hne : '/' ≠ c := fun h => hc h.symm
      simpa [Parted, hne] using ih

theorem exists_pathOf {cs : List Char} (h : Rooted cs) : ∃ segments, cs = pathOf segments ∧ Parted segments := by
  cases cs with
  | nil => exact ⟨[], rfl, nofun⟩
  | cons c cs =>
    obtain rfl := h c rfl
    exact ⟨pieces cs, (pathOf_pieces cs).symm, parted_pieces cs⟩

theorem pieces_append_slash {s : List Char} (hs : '/' ∉ s) (cs : List Char) :
    pieces (s ++ '/' :: cs) = s :: pieces cs := by
  induction s with
  | nil => exact pieces_slash cs
  | cons c s ih =>
    simp only [List.mem_cons, not_or] at hs
    obtain ⟨first, rest, hrest, hwhole⟩ := pieces_cons (Ne.symm hs.1) (s ++ '/' :: cs)
    rw [ih hs.2] at hrest
    obtain ⟨rfl, rfl⟩ := List.cons.inj hrest
    exact hwhole

theorem pieces_eq {s : List Char} (hs : '/' ∉ s) : pieces s = [s] := by
  induction s with
  | nil => rfl
  | cons c s ih =>
    simp only [List.mem_cons, not_or] at hs
    obtain ⟨first, rest, hrest, hwhole⟩ := pieces_cons (Ne.symm hs.1) s
    rw [ih hs.2] at hrest
    obtain ⟨rfl, rfl⟩ := List.cons.inj hrest
    exact hwhole

theorem not_mem_of_pieces {cs : List Char} (h : (pieces cs).length = 1) : '/' ∉ cs := by
  obtain ⟨s, hs⟩ := List.length_eq_one_iff.mp h
  have hparted := parted_pieces cs
  have hpath := pathOf_pieces cs
  rw [hs] at hparted hpath
  obtain rfl : s = cs := by simpa using hpath
  exact hparted s (List.mem_singleton_self s)

theorem pieces_pathOf {s : List Char} (hs : '/' ∉ s) {segments : List (List Char)} (h : Parted segments) :
    pieces (s ++ pathOf segments) = s :: segments := by
  induction segments generalizing s with
  | nil => rw [pathOf_nil, List.append_nil, pieces_eq hs]
  | cons t rest ih =>
    rw [pathOf_cons, pieces_append_slash hs, ih (h t List.mem_cons_self) fun u hu => h u (List.mem_cons_of_mem t hu)]

theorem pathOf_injective {xs ys : List (List Char)} (hxs : Parted xs) (hys : Parted ys) (h : pathOf xs = pathOf ys) :
    xs = ys := by
  have hpieces : [] :: xs = [] :: ys := by
    rw [← pieces_pathOf List.not_mem_nil hxs, ← pieces_pathOf List.not_mem_nil hys, h]
  exact (List.cons.inj hpieces).2

/-! ## Segments of points -/

/-- The segment is one that the normal form of a path does not keep. -/
def IsPoints (s : List Char) : Prop := s = ['.'] ∨ s = ['.', '.']

/-- One more segment of a path that begins with a slash. -/
def tidyStep (done : List (List Char)) (s : List Char) : List (List Char) :=
  if s = ['.'] then done else if s = ['.', '.'] then done.dropLast else done ++ [s]

def tidy (segments : List (List Char)) : List (List Char) := segments.foldl tidyStep []

theorem foldl_pushSegment (done segments : List (List Char)) :
    segments.foldl pushSegment ([] :: done) = [] :: segments.foldl tidyStep done := by
  -- the empty piece in front of the first slash is never taken back
  induction segments generalizing done with
  | nil => rfl
  | cons s rest ih =>
    have hstep : pushSegment ([] :: done) s = [] :: tidyStep done s := by
      unfold pushSegment tidyStep
      split_ifs with hone htwo hempty
      · rfl
      · cases done with
        | nil => rfl
        | cons d ds => simp at hempty
      · cases done with
        | nil => simp at hempty
        | cons d ds => rfl
      · rfl
    rw [List.foldl_cons, List.foldl_cons, hstep, ih]

theorem foldl_tidyStep {segments : List (List Char)} (h : ∀ s ∈ segments, ¬ IsPoints s) (done : List (List Char)) :
    segments.foldl tidyStep done = done ++ segments := by
  induction segments generalizing done with
  | nil => simp
  | cons s rest ih =>
    have hs := h s List.mem_cons_self
    unfold IsPoints at hs
    push Not at hs
    rw [List.foldl_cons, ih fun t ht => h t (List.mem_cons_of_mem s ht)]
    unfold tidyStep
    rw [if_neg hs.1, if_neg hs.2, List.append_assoc, List.singleton_append]

theorem intercalate_slash (s : List Char) (segments : List (List Char)) :
    ['/'].intercalate (s :: segments) = s ++ pathOf segments := by
  induction segments generalizing s with
  | nil => simp
  | cons t rest ih => rw [List.intercalate_cons_cons, ih, pathOf_cons, List.append_assoc, List.singleton_append]

theorem normalPath_pathOf {segments : List (List Char)} (h : Parted segments) :
    normalPath (pathOf segments) = pathOf (tidy segments) := by
  have hpieces : splitBy (· = '/') (pathOf segments) = [] :: segments :=
    pieces_pathOf (s := []) List.not_mem_nil h
  unfold normalPath
  dsimp only
  rw [hpieces]
  split_ifs with hpoints
  · rw [List.foldl_cons]
    show ['/'].intercalate (segments.foldl pushSegment [[]]) = _
    rw [foldl_pushSegment, intercalate_slash]
    rfl
  · simp only [Bool.or_eq_true, List.contains_eq_mem, decide_eq_true_eq, not_or, List.mem_cons] at hpoints
    unfold tidy
    rw [foldl_tidyStep, List.nil_append]
    rintro s hs (rfl | rfl)
    · exact hpoints.1.2 hs
    · exact hpoints.2.2 hs

/-! ## Octets of a path -/

/-- How many octets the path with these segments stands for. -/
def weight (segments : List (List Char)) : Nat := (unescape (pathOf segments)).length

@[simp] theorem weight_append (xs ys : List (List Char)) : weight (xs ++ ys) = weight xs + weight ys := by
  unfold weight
  rw [pathOf_append, unescape_append (rooted_pathOf ys), List.length_append]

theorem weight_cons (s : List Char) (segments : List (List Char)) :
    weight (s :: segments) = (unescape s).length + 1 + weight segments := by
  unfold weight
  rw [pathOf_cons, unescape_slash, unescape_append (rooted_pathOf segments), List.length_cons, List.length_append]
  omega

theorem weight_pieces (cs : List Char) : weight (pieces cs) = (unescape cs).length + 1 := by
  rw [weight, pathOf_pieces, unescape_slash, List.length_cons]

theorem weight_dropLast_le (segments : List (List Char)) : weight segments.dropLast ≤ weight segments := by
  rcases List.eq_nil_or_concat segments with rfl | ⟨front, last, rfl⟩
  · exact Nat.le_refl _
  · simp

theorem weight_tidyStep_le (done : List (List Char)) (s : List Char) :
    weight (tidyStep done s) ≤ weight done + weight [s] := by
  have hdrop := weight_dropLast_le done
  unfold tidyStep
  split_ifs
  · omega
  · omega
  · exact Nat.le_of_eq (weight_append done [s])

theorem weight_tidyStep_lt (done : List (List Char)) {s : List Char} (h : IsPoints s) :
    weight (tidyStep done s) < weight done + weight [s] := by
  have hdrop := weight_dropLast_le done
  have hone : 1 ≤ weight [s] := by
    rw [weight_cons]
    omega
  unfold tidyStep
  rcases h with rfl | rfl
  · rw [if_pos rfl]
    omega
  · rw [if_neg (by decide), if_pos rfl]
    omega

theorem weight_foldl_le (done segments : List (List Char)) :
    weight (segments.foldl tidyStep done) ≤ weight done + weight segments := by
  induction segments generalizing done with
  | nil => simp
  | cons s rest ih =>
    have hstep := weight_tidyStep_le done s
    have hrest := ih (tidyStep done s)
    rw [List.foldl_cons, ← List.singleton_append, weight_append]
    omega

/-- Segments of points only take octets away. -/
theorem weight_foldl_lt {segments : List (List Char)} {s : List Char} (hs : s ∈ segments) (hpoints : IsPoints s)
    (done : List (List Char)) : weight (segments.foldl tidyStep done) < weight done + weight segments := by
  induction segments generalizing done with
  | nil => cases hs
  | cons t rest ih =>
    rw [List.foldl_cons, ← List.singleton_append, weight_append]
    rcases List.mem_cons.mp hs with rfl | hs
    · have hstep := weight_tidyStep_lt done hpoints
      have hrest := weight_foldl_le (tidyStep done s) rest
      omega
    · have hstep := weight_tidyStep_le done t
      have hrest := ih hs (tidyStep done t)
      omega

/-! ## Escapes in a path -/

theorem escape_pathOf (segments : List (List Char)) :
    escape inPath (pathOf segments) = pathOf (segments.map (escape inPath)) := by
  induction segments with
  | nil => rfl
  | cons s rest ih =>
    rw [pathOf_cons, escape_kept (by decide) (by decide), escape_append inPath (rooted_pathOf rest), ih]
    rfl

theorem not_mem_escape {s : List Char} (h : '/' ∉ s) (safe : Char → Bool) : '/' ∉ escape safe s := by
  intro hmem
  rcases mem_escape hmem with hmem | heq | hhex
  · exact h hmem
  · cases heq
  · cases hhex

theorem Parted.escape {segments : List (List Char)} (h : Parted segments) (safe : Char → Bool) :
    Parted (segments.map (Url.escape safe)) := by
  intro s hs
  obtain ⟨t, ht, rfl⟩ := List.mem_map.mp hs
  exact not_mem_escape (h t ht) safe

end SessionKeeper.Url

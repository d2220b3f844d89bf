import SessionKeeper.Proofs.Url.Root

/-!
# Routes with an id

An id that is put into a path as it is stands there for itself only if nothing in it means something in an address.

* `Url.IsPlain` : nothing in an id means something in an address.
* `Url.Route`, `Url.Route.path` : the words around the id, and the path with it.
* `Url.Route.Leads` : the path of an address is the path of the route with one segment that reads as the id.
* `Url.Route.leads_iff` : that is so for plain ids, and for no others.
* `Url.Route.target_injective` : plain ids that give the same target are the same.
-/

namespace SessionKeeper.Url

open Text

/-! ## Ids and words -/

/-- Nothing in the id means something in an address. -/
def IsPlain (id : List Char) : Prop :=
  (∀ c ∈ id, c ≠ '/' ∧ isMark c = false) ∧ ¬ HasEscape id ∧ ¬ IsPoints id

instance : DecidablePred IsPoints := fun s => inferInstanceAs (Decidable (s = _ ∨ s = _))

instance : DecidablePred IsPlain := fun id =>
  @instDecidableAnd _ _ (List.decidableBAll _ id) inferInstance

/-- The segment is a word of small letters. -/
def IsWord (s : List Char) : Prop := s ≠ [] ∧ ∀ c ∈ s, c.isLower = true

instance : DecidablePred IsWord := fun s => @instDecidableAnd _ _ inferInstance (List.decidableBAll _ s)

namespace IsWord

variable {s : List Char}

theorem not_mem (h : IsWord s) {c : Char} (hc : c.isLower = false) : c ∉ s := by
  intro hmem
  rw [h.2 c hmem] at hc
  cases hc

theorem not_isPoints (h : IsWord s) : ¬ IsPoints s := by
  have hpoint := h.not_mem (c := '.') (by decide)
  rintro (rfl | rfl) <;> simp at hpoint

theorem isMark_eq (h : IsWord s) : ∀ c ∈ s, isMark c = false := by
  have hquery := h.not_mem (c := '?') (by decide)
  have hfragment := h.not_mem (c := '#') (by decide)
  intro c hc
  unfold isMark
  simpa using ⟨fun heq => hquery (heq ▸ hc), fun heq => hfragment (heq ▸ hc)⟩

theorem escape_eq (h : IsWord s) : escape inPath s = s := by
  have hletters := h.2
  clear h
  induction s with
  | nil => rfl
  | cons c s ih =>
    have hc := hletters c List.mem_cons_self
    have hne : c ≠ '%' := by
      rintro rfl
      cases hc
    have hkept : (isUnreserved c || inPath c) = true := by
      unfold isUnreserved Char.isAlphanum Char.isAlpha
      simp [hc]
    rw [escape_kept hne hkept, ih fun d hd => hletters d (List.mem_cons_of_mem c hd)]

end IsWord

/-- The words in front of an id and behind it. -/
structure Route where
  before : List (List Char)
  after : List (List Char)
  words : ∀ s ∈ before ++ after, IsWord s

namespace Route

variable (r : Route) (id : List Char)

def path : List Char := pathOf (r.before ++ id :: r.after)

theorem path_eq : r.path id = pathOf r.before ++ '/' :: (id ++ pathOf r.after) := by
  rw [path, pathOf_append, pathOf_cons]

theorem rooted_path : Rooted (r.path id) := rooted_pathOf _

theorem isMark_pathOf {segments : List (List Char)} (h : ∀ s ∈ segments, IsWord s) :
    ∀ c ∈ pathOf segments, isMark c = false := by
  intro c hc
  obtain ⟨s, hs, hmem⟩ := List.mem_flatMap.mp hc
  rcases List.mem_cons.mp hmem with rfl | hmem
  · rfl
  · exact (h s hs).isMark_eq c hmem

theorem words_before : ∀ s ∈ r.before, IsWord s := fun s hs => r.words s (List.mem_append_left _ hs)

theorem words_after : ∀ s ∈ r.after, IsWord s := fun s hs => r.words s (List.mem_append_right _ hs)

/-! ## What is left of the path -/

/-- The segments that the path has up to the first mark. -/
def segments : List (List Char) :=
  r.before ++ (pieces (upTo isMark id).1 ++ if (upTo isMark id).2 = [] then r.after else [])

theorem upTo_path : (upTo isMark (r.path id)).1 = pathOf (r.segments id) := by
  have hfront : ∀ c ∈ pathOf r.before ++ ['/'], isMark c = false := by
    simpa [or_imp, forall_and] using ⟨isMark_pathOf r.words_before, rfl⟩
  have hid : (upTo isMark (id ++ pathOf r.after)).1 =
      (upTo isMark id).1 ++ if (upTo isMark id).2 = [] then pathOf r.after else [] := by
    split_ifs with hmarks
    · have hnone := none_of_upTo hmarks
      rw [upTo_append_of_none hnone, upTo_of_none hnone, upTo_of_none (isMark_pathOf r.words_after)]
    · rw [upTo_append_of_some hmarks, List.append_nil]
  have hwhole := upTo_append_of_none hfront (id ++ pathOf r.after)
  rw [List.append_assoc, List.singleton_append] at hwhole
  rw [path_eq, hwhole, hid, segments, pathOf_append, pathOf_append, pathOf_pieces]
  split_ifs <;> simp

variable {id}

theorem isMark_path (h : IsPlain id) : ∀ c ∈ r.path id, isMark c = false := by
  rw [path_eq]
  intro c hc
  simp only [List.mem_append, List.mem_cons] at hc
  rcases hc with hc | rfl | hc | hc
  · exact isMark_pathOf r.words_before c hc
  · rfl
  · exact (h.1 c hc).2
  · exact isMark_pathOf r.words_after c hc

theorem segments_plain (h : IsPlain id) : r.segments id = r.before ++ id :: r.after := by
  have hnone := upTo_of_none fun c hc => (h.1 c hc).2
  have hslash : '/' ∉ id := fun hmem => (h.1 '/' hmem).1 rfl
  unfold segments
  rw [hnone, if_pos rfl, pieces_eq hslash, List.singleton_append]

variable (id)

/-- How many octets the path has if the id stands there for itself. -/
def fullWeight : Nat := weight r.before + ((encodeUtf8 id).length + 1) + weight r.after

theorem weight_segments : weight (r.segments id) = weight r.before +
    ((unescape (upTo isMark id).1).length + 1 + if (upTo isMark id).2 = [] then weight r.after else 0) := by
  unfold segments
  rw [weight_append, weight_append, weight_pieces]
  split_ifs <;> rfl

/-- Marks and escapes only take octets away. -/
theorem weight_segments_lt (h : (upTo isMark id).2 ≠ [] ∨ HasEscape id) :
    weight (r.segments id) < r.fullWeight id := by
  rw [weight_segments, fullWeight]
  by_cases hmarks : (upTo isMark id).2 = []
  · have hescape := length_unescape_lt (h.resolve_left fun hne => hne hmarks)
    rw [if_pos hmarks, upTo_of_none (none_of_upTo hmarks)]
    dsimp only
    omega
  · have hfront := length_unescape_le (upTo isMark id).1
    have hback := length_encodeUtf8_pos hmarks
    have hwhole : (upTo isMark id).1 ++ (upTo isMark id).2 = id := List.takeWhile_append_dropWhile
    have hlength := congrArg (fun cs => (encodeUtf8 cs).length) hwhole
    simp only [encodeUtf8, List.flatMap_append, List.length_append] at hlength hfront hback ⊢
    rw [if_neg hmarks]
    omega

theorem weight_segments_le : weight (r.segments id) ≤ r.fullWeight id := by
  by_cases h : (upTo isMark id).2 ≠ [] ∨ HasEscape id
  · exact Nat.le_of_lt (r.weight_segments_lt id h)
  · push Not at h
    have hlength := length_unescape_le id
    rw [weight_segments, fullWeight, if_pos h.1, upTo_of_none (none_of_upTo h.1)]
    dsimp only
    omega

/-! ## Where the path leads -/

/-- The path of the address is the path of the route behind that of the root, with exactly one segment in the place of
the id, which reads as the id. -/
def Leads (u v : Url) : Prop :=
  ∃ segment, '/' ∉ segment ∧ v.pathChars = u.pathChars ++ pathOf (r.before ++ segment :: r.after) ∧
    unescape segment = encodeUtf8 id

theorem parted {segment : List Char} (h : '/' ∉ segment) : Parted (r.before ++ segment :: r.after) := by
  intro s hs
  rw [List.mem_append, List.mem_cons] at hs
  rcases hs with hs | rfl | hs
  · exact (r.words_before s hs).not_mem (by decide)
  · exact h
  · exact (r.words_after s hs).not_mem (by decide)

theorem parted_segments : Parted (r.segments id) := by
  intro s hs
  unfold segments at hs
  rw [List.mem_append, List.mem_append] at hs
  rcases hs with hs | hs | hs
  · exact (r.words_before s hs).not_mem (by decide)
  · exact parted_pieces _ s hs
  · split_ifs at hs with hmarks
    · exact (r.words_after s hs).not_mem (by decide)
    · cases hs

theorem map_escape {segments : List (List Char)} (h : ∀ s ∈ segments, IsWord s) :
    segments.map (escape inPath) = segments :=
  (List.map_congr_left fun s hs => (h s hs).escape_eq).trans (List.map_id segments)

theorem escape_done (done segments : List (List Char)) : escape inPath (pathOf (done ++ segments)) =
    escape inPath (pathOf done) ++ pathOf (segments.map (escape inPath)) := by
  rw [pathOf_append, escape_append inPath (rooted_pathOf segments), escape_pathOf segments]

variable {root : List Char} {u v : Url}

/-- The address of the route behind a root: the segments up to the first mark follow those of the root. -/
theorem exists_done (hroot : IsRoot root u) (h : parse (root ++ r.path id) = .ok v) :
    ∃ done, u.pathChars = escape inPath (pathOf done) ∧ v = { u with
      pathChars := escape inPath (pathOf ((r.segments id).foldl tidyStep done))
      query := (queryAndFragment (r.path id)).1.map (escape inQuery)
      fragment := (queryAndFragment (r.path id)).2.map (escape inFragment) } := by
  obtain ⟨base, hbase, hpath, hparse⟩ := hroot.parse_append
  obtain ⟨-, rfl⟩ := (hparse _ v (r.rooted_path id)).mp h
  have hparted : Parted (base ++ r.segments id) := by
    intro s hs
    rcases List.mem_append.mp hs with hs | hs
    · exact hbase s hs
    · exact r.parted_segments id s hs
  refine ⟨tidy base, hpath, ?_⟩
  rw [upTo_path, ← pathOf_append, normalPath_pathOf hparted, tidy, List.foldl_append]
  rfl

theorem exists_parse (hroot : IsRoot root u) : (∃ v, parse (root ++ r.path id) = .ok v) ↔ Fits (root ++ r.path id) := by
  obtain ⟨base, -, -, hparse⟩ := hroot.parse_append
  constructor
  · rintro ⟨v, hv⟩
    exact ((hparse _ v (r.rooted_path id)).mp hv).1
  · exact fun hfits => ⟨_, (hparse _ _ (r.rooted_path id)).mpr ⟨hfits, rfl⟩⟩

theorem parse_origin (hroot : IsRoot root u) (h : parse (root ++ r.path id) = .ok v) :
    v.scheme = u.scheme ∧ v.user = u.user ∧ v.host = u.host ∧ v.port = u.port := by
  obtain ⟨done, -, rfl⟩ := r.exists_done id hroot h
  exact ⟨rfl, rfl, rfl, rfl⟩

theorem parse_plain (hroot : IsRoot root u) (hid : IsPlain id) (h : parse (root ++ r.path id) = .ok v) :
    v = { u with pathChars := u.pathChars ++ pathOf (r.before ++ escape inPath id :: r.after) } := by
  obtain ⟨done, hdone, rfl⟩ := r.exists_done id hroot h
  have hpoints : ∀ s ∈ r.before ++ id :: r.after, ¬ IsPoints s := by
    intro s hs
    rw [List.mem_append, List.mem_cons] at hs
    rcases hs with hs | rfl | hs
    · exact (r.words_before s hs).not_isPoints
    · exact hid.2.2
    · exact (r.words_after s hs).not_isPoints
  have hmarks := queryAndFragment_none (r.isMark_path hid)
  rw [r.segments_plain hid, foldl_tidyStep hpoints, escape_done, hmarks, ← hdone, List.map_append, List.map_cons,
    map_escape r.words_before, map_escape r.words_after, hroot.query, hroot.fragment]
  rfl

theorem leads_of_isPlain (hroot : IsRoot root u) (hid : IsPlain id) (h : parse (root ++ r.path id) = .ok v) :
    r.Leads id u v := by
  rw [r.parse_plain id hroot hid h]
  exact ⟨_, not_mem_escape (fun hmem => (hid.1 _ hmem).1 rfl) inPath, rfl,
    (unescape_escape inPath id).trans (unescape_eq hid.2.1)⟩

/-- Marks, escapes and segments of points take octets away, and a slash adds a segment. -/
theorem isPlain_of_leads (hroot : IsRoot root u) (h : parse (root ++ r.path id) = .ok v) (hleads : r.Leads id u v) :
    IsPlain id := by
  obtain ⟨segment, hsegment, hpath, hreads⟩ := hleads
  obtain ⟨done, hdone, rfl⟩ := r.exists_done id hroot h
  dsimp only at hpath
  -- the path stands for as many octets as if nothing of the id were lost
  have hwhole : weight ((r.segments id).foldl tidyStep done) = weight done + r.fullWeight id := by
    rw [weight, ← unescape_escape inPath, hpath, hdone, unescape_append (rooted_pathOf _), unescape_escape,
      List.length_append, ← weight, ← weight, weight_append, weight_cons, hreads, fullWeight]
    omega
  have hle := weight_foldl_le done (r.segments id)
  have hkept : ¬ ((upTo isMark id).2 ≠ [] ∨ HasEscape id) := fun hlost => by
    have hlt := r.weight_segments_lt id hlost
    omega
  have hpoints : ∀ s ∈ r.segments id, ¬ IsPoints s := fun s hs hs' => by
    have hlt := weight_foldl_lt hs hs' done
    have hfull := r.weight_segments_le id
    omega
  push Not at hkept
  have hsegments : r.segments id = r.before ++ (pieces id ++ r.after) := by
    rw [segments, if_pos hkept.1, upTo_of_none (none_of_upTo hkept.1)]
  -- a slash loses no octet; here the segments are counted
  have hslash : '/' ∉ id := by
    rw [foldl_tidyStep hpoints, escape_done, hdone] at hpath
    have hsame := pathOf_injective ((r.parted_segments id).escape inPath) (r.parted hsegment)
      (List.append_cancel_left hpath)
    have hlength := congrArg List.length hsame
    rw [hsegments] at hlength
    simp only [List.length_map, List.length_append, List.length_cons] at hlength
    exact not_mem_of_pieces (by omega)
  have hid : ¬ IsPoints id := by
    refine hpoints id ?_
    rw [hsegments, pieces_eq hslash]
    simp
  refine ⟨fun c hc => ⟨?_, none_of_upTo hkept.1 c hc⟩, hkept.2, hid⟩
  rintro rfl
  exact hslash hc

/-- Only plain ids stand in the path for themselves. -/
theorem leads_iff (hroot : IsRoot root u) (h : parse (root ++ r.path id) = .ok v) : r.Leads id u v ↔ IsPlain id :=
  ⟨r.isPlain_of_leads id hroot h, fun hid => r.leads_of_isPlain id hroot hid h⟩

theorem target_plain (hroot : IsRoot root u) (hid : IsPlain id) (h : parse (root ++ r.path id) = .ok v) :
    v.target = String.ofList (u.pathChars ++ pathOf (r.before ++ escape inPath id :: r.after)) := by
  rw [r.parse_plain id hroot hid h]
  unfold target rootedPath queryPart
  simp [hroot.query]

theorem target_injective (hroot : IsRoot root u) {id id' : List Char} {v v' : Url} (hid : IsPlain id)
    (hid' : IsPlain id') (h : parse (root ++ r.path id) = .ok v) (h' : parse (root ++ r.path id') = .ok v')
    (heq : v.target = v'.target) : id = id' := by
  rw [r.target_plain id hroot hid h, r.target_plain id' hroot hid' h'] at heq
  have hpath := List.append_cancel_left (String.ofList_injective heq)
  rw [pathOf_append, pathOf_append, pathOf_cons, pathOf_cons] at hpath
  have hescaped := List.append_cancel_right (List.cons.inj (List.append_cancel_left hpath)).2
  refine encodeUtf8_injective ?_
  rw [← unescape_eq hid.2.1, ← unescape_eq hid'.2.1, ← unescape_escape inPath id, hescaped, unescape_escape]

end Route

end SessionKeeper.Url

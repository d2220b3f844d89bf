import SessionKeeper.Proofs.Url.Path

/-!
# Addresses that go on from a root

What is written behind the address of an interface changes its path, and, from a mark on, its query and its fragment;
scheme and authority stay.

* `Url.split_append` : how the parts of a text go on.
* `Url.Parts.Makes`, `Url.Parts.Makes.goOn` : the parts of an absolute address are normal each for itself.
* `Url.Fits`, `Url.parse_eq_ok` : an address is short enough and free of control characters.
* `Url.IsRoot`, `Url.IsRoot.parse_append` : the address of an interface, and what is written behind it.
-/

namespace SessionKeeper.Url

open Text Decimal

/-! ## Splitting a text that goes on -/

theorem breakAt_append {p : Char → Bool} {cs front rest : List Char} (h : breakAt p cs = (front, some rest))
    (t : List Char) : breakAt p (cs ++ t) = (front, some (rest ++ t)) := by
  unfold breakAt at h ⊢
  rw [List.dropWhile_append, List.takeWhile_append]
  cases hdrop : cs.dropWhile (fun c => !p c) with
  | nil =>
    rw [hdrop] at h
    cases h
  | cons c back =>
    rw [hdrop] at h
    have hlength : (cs.takeWhile fun c => !p c).length ≠ cs.length := by
      have hwhole := congrArg List.length (List.takeWhile_append_dropWhile (p := fun c => !p c) (l := cs))
      rw [hdrop, List.length_append, List.length_cons] at hwhole
      omega
    obtain ⟨rfl, rfl⟩ : cs.takeWhile (fun c => !p c) = front ∧ back = rest := by simpa using h
    simp [hlength]

theorem takeScheme_append {cs : List Char} (h : (takeScheme cs).1 ≠ []) (t : List Char) :
    takeScheme (cs ++ t) = ((takeScheme cs).1, (takeScheme cs).2 ++ t) := by
  unfold takeScheme at h ⊢
  rcases hbreak : breakAt (· = ':') cs with ⟨front, _ | rest⟩
  · rw [hbreak] at h
    exact absurd rfl h
  · rw [hbreak] at h
    rw [breakAt_append hbreak]
    dsimp only at h ⊢
    split_ifs at h ⊢ with hscheme
    · rfl
    · exact absurd rfl h

theorem upTo_cons (p : Char → Bool) (c : Char) (cs : List Char) :
    upTo p (c :: cs) = if p c then ([], c :: cs) else (c :: (upTo p cs).1, (upTo p cs).2) := by
  unfold upTo
  cases hc : p c <;> simp [hc]

theorem upTo_append {p : Char → Bool} (hp : p '/' = true) {t : List Char} (ht : Rooted t) (cs : List Char) :
    upTo p (cs ++ t) = ((upTo p cs).1, (upTo p cs).2 ++ t) := by
  induction cs with
  | nil =>
    cases t with
    | nil => rfl
    | cons c t =>
      obtain rfl := ht c rfl
      rw [List.nil_append, upTo_cons, if_pos hp]
      rfl
  | cons c cs ih =>
    rw [List.cons_append, upTo_cons, upTo_cons, ih]
    split_ifs <;> rfl

theorem Rooted.upTo {p : Char → Bool} (hp : p '/' = false) {t : List Char} (ht : Rooted t) :
    Rooted (Url.upTo p t).1 := by
  cases t with
  | nil => exact .nil
  | cons c t =>
    obtain rfl := ht c rfl
    rw [upTo_cons, hp]
    exact .slash _

theorem takeAuthority_append {cs t : List Char} (h : (takeAuthority cs).1 ≠ []) (ht : Rooted t) :
    takeAuthority (cs ++ t) = ((takeAuthority cs).1, (takeAuthority cs).2 ++ t) := by
  unfold takeAuthority at h
  split at h
  next rest => exact upTo_append (by decide) ht rest
  next => exact absurd rfl h

/-- Whether the path ends in front of the character. -/
def isMark (c : Char) : Bool := c = '?' || c = '#'

theorem upTo_of_none {p : Char → Bool} {cs : List Char} (h : ∀ c ∈ cs, p c = false) : upTo p cs = (cs, []) := by
  induction cs with
  | nil => rfl
  | cons c cs ih =>
    rw [upTo_cons, h c List.mem_cons_self, ih fun d hd => h d (List.mem_cons_of_mem c hd)]
    rfl

theorem upTo_append_of_none {p : Char → Bool} {cs : List Char} (h : ∀ c ∈ cs, p c = false) (t : List Char) :
    upTo p (cs ++ t) = (cs ++ (upTo p t).1, (upTo p t).2) := by
  induction cs with
  | nil => rfl
  | cons c cs ih =>
    rw [List.cons_append, upTo_cons, h c List.mem_cons_self, ih fun d hd => h d (List.mem_cons_of_mem c hd)]
    rfl

theorem head_upTo {p : Char → Bool} {cs : List Char} {c : Char} {rest : List Char} (h : (upTo p cs).2 = c :: rest) :
    p c = true := by
  induction cs with
  | nil => cases h
  | cons d cs ih =>
    rw [upTo_cons] at h
    split_ifs at h with hd
    · obtain ⟨rfl, -⟩ := List.cons.inj h
      exact hd
    · exact ih h

theorem none_of_upTo {p : Char → Bool} {cs : List Char} (h : (upTo p cs).2 = []) : ∀ c ∈ cs, p c = false := by
  induction cs with
  | nil => exact nofun
  | cons d cs ih =>
    rw [upTo_cons] at h
    split_ifs at h with hd
    rintro c (_ | ⟨_, hc⟩)
    · exact Bool.eq_false_iff.mpr hd
    · exact ih h c hc

theorem upTo_append_of_some {p : Char → Bool} {cs : List Char} (h : (upTo p cs).2 ≠ []) (t : List Char) :
    upTo p (cs ++ t) = ((upTo p cs).1, (upTo p cs).2 ++ t) := by
  induction cs with
  | nil => exact absurd rfl h
  | cons c cs ih =>
    rw [upTo_cons] at h
    rw [List.cons_append, upTo_cons, upTo_cons]
    split_ifs at h ⊢
    · rfl
    · rw [ih h]

/-- The query and the fragment that a text with these marks goes on with. -/
def queryAndFragment (t : List Char) : Option (List Char) × Option (List Char) :=
  let (query, rest) := takeMarked '?' (· = '#') (upTo isMark t).2
  (query, (takeMarked '#' (fun _ => false) rest).1)

theorem split_eq (cs : List Char) : split cs =
    ⟨(takeScheme cs).1, (takeAuthority (takeScheme cs).2).1, (upTo isMark (takeAuthority (takeScheme cs).2).2).1,
      (queryAndFragment (takeAuthority (takeScheme cs).2).2).1,
      (queryAndFragment (takeAuthority (takeScheme cs).2).2).2⟩ := rfl

theorem queryAndFragment_none {t : List Char} (h : ∀ c ∈ t, isMark c = false) : queryAndFragment t = (none, none) := by
  unfold queryAndFragment
  rw [upTo_of_none h]
  rfl

theorem no_marks {t : List Char} (h : queryAndFragment t = (none, none)) : ∀ c ∈ t, isMark c = false := by
  refine none_of_upTo ?_
  cases hrest : (upTo isMark t).2 with
  | nil => rfl
  | cons c rest =>
    have hmark := head_upTo hrest
    unfold queryAndFragment takeMarked at h
    rw [hrest] at h
    unfold isMark at hmark
    by_cases hc : c = '?'
    · simp [hc] at h
    · have hfragment : c = '#' := by simpa [hc] using hmark
      simp [hfragment] at h

theorem split_append {cs t : List Char} (hscheme : (split cs).scheme ≠ []) (hauthority : (split cs).authority ≠ [])
    (hquery : (split cs).query = none) (hfragment : (split cs).fragment = none) (ht : Rooted t) :
    split (cs ++ t) = { split cs with
      path := (split cs).path ++ (upTo isMark t).1
      query := (queryAndFragment t).1
      fragment := (queryAndFragment t).2 } := by
  rw [split_eq] at hscheme hauthority hquery hfragment
  have hnone := no_marks (Prod.ext hquery hfragment)
  have hgoes : queryAndFragment ((takeAuthority (takeScheme cs).2).2 ++ t) = queryAndFragment t := by
    unfold queryAndFragment
    rw [upTo_append_of_none hnone]
  rw [split_eq, split_eq, takeScheme_append hscheme, takeAuthority_append hauthority ht]
  dsimp only
  rw [hgoes, upTo_append_of_none hnone, upTo_of_none hnone]

/-! ## Normal parts -/

theorem checkPath_ok {hasScheme : Bool} {path : List Char} :
    checkPath hasScheme true path = .ok () ↔ Rooted path := by
  unfold checkPath
  cases path with
  | nil => simp [Rooted]
  | cons c path =>
    by_cases hc : c = '/'
    · simp [hc, Rooted]
    · simp [hc, Rooted]

/-- User, host and port of an authority, each in its written form. -/
def readAuthority (scheme authority : List Char) : Except Fault (List Char × List Char × Option Int) := do
  let (user, hostAndPort) := (breakAtLast '@' authority).getD ([], authority)
  let (host, port) := takeHost hostAndPort
  let host ← (normalHost? host).elim (.error (refusedHost host)) .ok
  let port ← (readPort port scheme).elim (.error (refused "Invalid port: " port)) .ok
  return (escape inUser user, host, port)

theorem readAuthority_nil (scheme : List Char) : readAuthority scheme [] = .ok ([], [], none) := rfl

theorem Parts.normal_eq (p : Parts) : p.normal = (readAuthority p.scheme p.authority).bind fun (user, host, port) =>
    let hasAuthority := !user.isEmpty || !host.isEmpty || port.isSome
    (checkPath (!p.scheme.isEmpty) hasAuthority p.path).map fun _ => {
      scheme := p.scheme.map Char.toLower
      user := user
      host := host
      port := port
      pathChars := escape inPath (if !p.scheme.isEmpty || hasAuthority then normalPath p.path else p.path)
      query := p.query.map (escape inQuery)
      fragment := p.fragment.map (escape inFragment) } := by
  unfold normal readAuthority
  rcases (breakAtLast '@' p.authority).getD ([], p.authority) with ⟨user, hostAndPort⟩
  rcases hhost : takeHost hostAndPort with ⟨host, port⟩
  simp only [hhost]
  cases normalHost? host with
  | none => rfl
  | some host =>
    cases readPort port p.scheme with
    | none => rfl
    | some port =>
      simp only [Option.elim, bind, Except.bind, pure, Except.pure]
      cases checkPath _ _ p.path <;> rfl

/-- The parts make an absolute address: its authority names a host, and its path is rooted. -/
structure Parts.Makes (p : Parts) (u : Url) : Prop where
  scheme : p.scheme ≠ []
  host : u.host ≠ []
  rooted : Rooted p.path
  authority : readAuthority p.scheme p.authority = .ok (u.user, u.host, u.port)
  eq : u = { u with
    scheme := p.scheme.map Char.toLower
    pathChars := escape inPath (normalPath p.path)
    query := p.query.map (escape inQuery)
    fragment := p.fragment.map (escape inFragment) }

namespace Parts

variable {p : Parts} {u : Url}

theorem makes_of_normal (h : p.normal = .ok u) (habsolute : u.isAbsolute = true) : p.Makes u := by
  rw [p.normal_eq] at h
  rcases hread : readAuthority p.scheme p.authority with e | ⟨user, host, port⟩
  · rw [hread] at h
    cases h
  rw [hread] at h
  cases hpath : checkPath (!p.scheme.isEmpty) (!user.isEmpty || !host.isEmpty || port.isSome) p.path with
  | error e =>
    dsimp only [Except.bind] at h
    rw [hpath] at h
    cases h
  | ok _ =>
    dsimp only [Except.bind] at h
    rw [hpath] at h
    obtain rfl := Except.ok.inj h
    unfold isAbsolute at habsolute
    simp only [Bool.and_eq_true, Bool.not_eq_true', List.isEmpty_eq_false_iff, ne_eq, List.map_eq_nil_iff] at habsolute
    obtain ⟨hscheme, hhost⟩ := habsolute
    have hshown : (!user.isEmpty || !host.isEmpty || port.isSome) = true := by simp [hhost]
    rw [hshown] at hpath
    exact ⟨hscheme, hhost, checkPath_ok.mp hpath, hread, by simp [hshown]⟩

theorem Makes.normal (h : p.Makes u) : p.normal = .ok u := by
  have hshown : (!u.user.isEmpty || !u.host.isEmpty || u.port.isSome) = true := by simp [h.host]
  rw [normal_eq, h.authority]
  dsimp only [Except.bind]
  rw [hshown, checkPath_ok.mpr h.rooted, Bool.or_true, if_pos rfl]
  exact congrArg Except.ok h.eq.symm

theorem Makes.authority_ne_nil (h : p.Makes u) : p.authority ≠ [] := by
  intro hnil
  have hread := h.authority
  rw [hnil, readAuthority_nil] at hread
  exact h.host (congrArg (fun parts => parts.2.1) (Except.ok.inj hread)).symm

/-- Path, query and fragment may be others: each part is normal for itself. -/
theorem Makes.goOn (h : p.Makes u) {path : List Char} (hrooted : Rooted path) (query fragment : Option (List Char)) :
    Makes { p with path := path, query := query, fragment := fragment } { u with
      pathChars := escape inPath (normalPath path)
      query := query.map (escape inQuery)
      fragment := fragment.map (escape inFragment) } where
  scheme := h.scheme
  host := h.host
  rooted := hrooted
  authority := h.authority
  eq := by rw [show u.scheme = p.scheme.map Char.toLower from congrArg Url.scheme h.eq]

end Parts

/-! ## Texts that go on -/

/-- The text is short enough and free of control characters. -/
def Fits (cs : List Char) : Prop := cs.length ≤ maxLength ∧ ∀ c ∈ cs, isControl c = false

instance : DecidablePred Fits := fun cs => @instDecidableAnd _ _ inferInstance (List.decidableBAll _ cs)

theorem checkText_ok {cs : List Char} : checkText cs = .ok () ↔ Fits cs := by
  unfold checkText Fits
  by_cases hlong : maxLength < cs.length
  · rw [if_pos hlong]
    exact ⟨nofun, fun hfits => absurd hfits.1 (Nat.not_le_of_lt hlong)⟩
  · rw [if_neg hlong]
    rcases hcontrol : upTo isControl cs with ⟨front, _ | ⟨c, rest⟩⟩
    · have hnone := none_of_upTo (by rw [hcontrol])
      simpa using ⟨Nat.le_of_not_lt hlong, hnone⟩
    · refine ⟨nofun, fun hfits => ?_⟩
      rw [upTo_of_none hfits.2] at hcontrol
      cases hcontrol

theorem parse_eq_ok {cs : List Char} {u : Url} : parse cs = .ok u ↔ Fits cs ∧ (split cs).normal = .ok u := by
  unfold parse
  rw [← checkText_ok]
  cases checkText cs with
  | error e => simp [bind, Except.bind]
  | ok _ => simp [bind, Except.bind]

/-- The text is the address of an interface: it names a scheme and a host, but no query and no fragment. -/
structure IsRoot (root : List Char) (u : Url) : Prop where
  parse : Url.parse root = .ok u
  absolute : u.isAbsolute = true
  query : u.query = none
  fragment : u.fragment = none

/-- The address of an interface has a path of segments; what goes on behind it changes only the path, up to the first
mark, and query and fragment. -/
theorem IsRoot.parse_append {root : List Char} {u : Url} (h : IsRoot root u) :
    ∃ segments, Parted segments ∧ u.pathChars = escape inPath (pathOf (tidy segments)) ∧
      ∀ t v, Rooted t → (Url.parse (root ++ t) = .ok v ↔ Fits (root ++ t) ∧ v = { u with
        pathChars := escape inPath (normalPath (pathOf segments ++ (upTo isMark t).1))
        query := (queryAndFragment t).1.map (escape inQuery)
        fragment := (queryAndFragment t).2.map (escape inFragment) }) := by
  have hmakes := Parts.makes_of_normal (parse_eq_ok.mp h.parse).2 h.absolute
  have hpath := congrArg Url.pathChars hmakes.eq
  have hquery := (congrArg Url.query hmakes.eq).symm.trans h.query
  have hfragment := (congrArg Url.fragment hmakes.eq).symm.trans h.fragment
  obtain ⟨segments, hsegments, hparted⟩ := exists_pathOf hmakes.rooted
  refine ⟨segments, hparted, by rw [hpath, hsegments, normalPath_pathOf hparted], fun t v ht => ?_⟩
  have hsplit := split_append hmakes.scheme hmakes.authority_ne_nil (Option.map_eq_none_iff.mp hquery)
    (Option.map_eq_none_iff.mp hfragment) ht
  have hgoes := hmakes.goOn (hmakes.rooted.append (ht.upTo (p := isMark) (by decide))) (queryAndFragment t).1
    (queryAndFragment t).2
  rw [parse_eq_ok, hsplit, hgoes.normal, hsegments, Except.ok.injEq, eq_comm (a := v)]

end SessionKeeper.Url

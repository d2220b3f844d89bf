import SessionKeeper.Proofs.Workspace.Length
import SessionKeeper.Url

/-!
# Reading a generated name

A generated name is made of a short id, a label and four digits of the time, with hyphens between them. The short id
may hold hyphens too, but the label and the digits hold none, so the parts are read from the end.

* `WorkspaceName.Parts`, `WorkspaceName.Parts.text` : the parts of a name, and the name that is made of them.
* `WorkspaceName.Parts.read?`, `WorkspaceName.Parts.read_text` : the parts that a name is read as.
* `WorkspaceName.generate_eq_iff` : when two generated names are the same.
* `WorkspaceName.IsMade`, `WorkspaceName.generate_recognisable` : the form of a generated name.
* `WorkspaceName.generate_unambiguous` : a generated name tells its parts.
-/

namespace SessionKeeper

open Text Ownership

theorem Decimal.breakAt_cons {p : Char → Bool} {front : List Char} (hfront : ∀ c ∈ front, p c = false) {mark : Char}
    (hmark : p mark = true) (rest : List Char) : breakAt p (front ++ mark :: rest) = (front, some rest) := by
  have hall : ∀ c ∈ front, (!p c) = true := fun c hc => by rw [hfront c hc, Bool.not_false]
  have hstop : (!p mark) = false := by rw [hmark, Bool.not_true]
  unfold breakAt
  rw [List.dropWhile_append_of_pos hall, List.takeWhile_append_of_pos hall, List.dropWhile_cons, List.takeWhile_cons,
    hstop, if_neg Bool.false_ne_true, if_neg Bool.false_ne_true, List.append_nil]

theorem Url.breakAtLast_cons {mark : Char} {back : List Char} (hback : mark ∉ back) (front : List Char) :
    breakAtLast mark (front ++ mark :: back) = some (front, back) := by
  have hother : ∀ c ∈ back.reverse, decide (c = mark) = false := by
    intro c hc
    exact decide_eq_false fun heq => hback (heq ▸ List.mem_reverse.mp hc)
  have hbreak := Decimal.breakAt_cons hother (decide_eq_true rfl) front.reverse
  unfold breakAtLast
  rw [List.reverse_append, List.reverse_cons, List.append_assoc, List.singleton_append, hbreak]
  simp only [List.reverse_reverse]

namespace WorkspaceName

/-! ## Parts -/

/-- The parts of a generated name. -/
structure Parts where
  short : List Char
  label : List Char
  time : Nat
deriving DecidableEq

namespace Parts

def of (id name : String) (time : Int) : Parts where
  short := shortChars id.toList
  label := labelChars name.toList
  time := (time.fmod 10000).toNat

/-- The name that is made of the parts. -/
def text (p : Parts) : String :=
  String.ofList ("ws-".toList ++ p.short ++ ['-'] ++ p.label ++ '-' :: Decimal.padded 4 (Decimal.naturalText p.time))

/-- The parts that a name is read as: the time stands behind the last hyphen, and the label behind the last one
before that. -/
def read? (name : String) : Option Parts := do
  let (front, digits) ← Url.breakAtLast '-' name.toList
  let (stem, label) ← Url.breakAtLast '-' front
  return ⟨stem.drop "ws-".length, label, Nat.ofDigitChars 10 digits 0⟩

theorem read_text {p : Parts} (hlabel : '-' ∉ p.label) : read? p.text = some p := by
  have htime : '-' ∉ Decimal.padded 4 (Decimal.naturalText p.time) := by
    intro h
    exact absurd (Decimal.isDigit_of_mem_padded h) (by decide)
  have hstem : p.text.toList = ("ws-".toList ++ p.short ++ '-' :: p.label) ++
      '-' :: Decimal.padded 4 (Decimal.naturalText p.time) := by
    unfold text
    rw [String.toList_ofList]
    simp only [List.append_assoc, List.singleton_append]
  unfold read?
  rw [hstem, Url.breakAtLast_cons htime, Option.bind_eq_bind, Option.bind_some]
  dsimp only
  rw [Url.breakAtLast_cons hlabel, Option.bind_some, Decimal.ofDigitChars_padded]
  rfl

theorem hyphen_not_mem_label (id name : String) (time : Int) : '-' ∉ (of id name time).label := by
  intro h
  exact absurd (labelChars_plain name.toList '-' h) (by decide)

theorem of_eq_iff (id name : String) (time : Int) (id' name' : String) (time' : Int) :
    of id name time = of id' name' time' ↔
      shortId id = shortId id' ∧ labelChars name.toList = labelChars name'.toList ∧
        time % 10000 = time' % 10000 := by
  have hshort : shortId id = shortId id' ↔ shortChars id.toList = shortChars id'.toList := String.ofList_inj
  have hmod (t : Int) : ((t.fmod 10000).toNat : Int) = t % 10000 := by
    rw [Int.fmod_eq_emod_of_nonneg t (by decide), Int.toNat_of_nonneg (Int.emod_nonneg t (by decide))]
  have htime : (time.fmod 10000).toNat = (time'.fmod 10000).toNat ↔ time % 10000 = time' % 10000 := by
    rw [← hmod, ← hmod, Int.natCast_inj]
  rw [hshort, ← htime, of, of, mk.injEq]

end Parts

theorem generate_eq_text (id name : String) (time : Int) : generate id name time = (Parts.of id name time).text := rfl

theorem read_generate (id name : String) (time : Int) :
    Parts.read? (generate id name time) = some (.of id name time) := by
  rw [generate_eq_text, Parts.read_text (Parts.hyphen_not_mem_label id name time)]

/-- Two generated names are the same if and only if the ids agree in their short form, the names in their label, and
the times up to whole tens of seconds. -/
theorem generate_eq_iff (id name : String) (time : Int) (id' name' : String) (time' : Int) :
    generate id name time = generate id' name' time' ↔
      shortId id = shortId id' ∧ labelChars name.toList = labelChars name'.toList ∧
        time % 10000 = time' % 10000 := by
  rw [← Parts.of_eq_iff]
  constructor
  · intro h
    have hread := congrArg Parts.read? h
    rw [read_generate, read_generate] at hread
    exact Option.some.inj hread
  · intro h
    rw [generate_eq_text, generate_eq_text, h]

/-! ## The form of a generated name -/

theorem length_orWord_pos {word : List Char} (hword : 0 < word.length) (cs : List Char) :
    0 < (orWord word cs).length := by
  unfold orWord
  cases cs with
  | nil => exact hword
  | cons c rest => exact Nat.succ_pos rest.length

theorem le_length_generateChars (id name : List Char) (time : Int) : 11 ≤ (generateChars id name time).length := by
  have hshort : 0 < (shortChars id).length := length_orWord_pos (by decide) _
  have hlabel : 0 < (labelChars name).length := length_orWord_pos (by decide) _
  have hsuffix := suffixChars_length time
  have hfront : "ws-".toList.length = 3 := by decide
  unfold generateChars stemChars
  simp only [List.length_append, List.length_cons, List.length_nil, hsuffix, hfront]
  omega

/-- Safe characters behind a letter make a valid name if they are not too many; a line break is none of them. -/
theorem isValid_of_safe {c : Char} {rest : List Char} (hletter : 'a' ≤ c ∧ c ≤ 'z')
    (hsafe : ∀ d ∈ c :: rest, isNameSafe d = true) (hlength : rest.length ≤ 31) :
    isValid (String.ofList (c :: rest)) = true := by
  have hbreak : (c :: rest).getLast? ≠ some '\n' := by
    intro h
    exact absurd (hsafe '\n' (List.mem_of_getLast? h)) (by decide)
  have hrest : rest.all isNameSafe = true :=
    List.all_eq_true.mpr fun d hd => hsafe d (List.mem_cons_of_mem c hd)
  unfold isValid
  rw [String.toList_ofList]
  dsimp only
  rw [if_neg hbreak, isValidChars, hrest]
  simp [hletter, hlength]

/-- A name that the provider takes, of safe characters, neither too short nor too long, and a hyphen and the last four
digits of a time at its end. -/
structure IsMade (time : Int) (name : String) : Prop where
  valid : isValid name = true
  safe : ∀ c ∈ name.toList, isNameSafe c = true
  least : 11 ≤ name.length
  most : name.length ≤ 27
  timed : ∃ front digits, name.toList = front ++ '-' :: digits ∧ digits.length = 4 ∧
    (∀ c ∈ digits, c.isDigit = true) ∧ (Nat.ofDigitChars 10 digits 0 : Int) = time.fmod 10000

theorem isMade_generate (id name : String) (time : Int) : IsMade time (generate id name time) := by
  have hsafe := generateChars_safe id.toList name.toList time
  have hmost := length_generateChars_le id.toList name.toList time
  have hchars : (generate id name time).toList = generateChars id.toList name.toList time := String.toList_ofList
  obtain ⟨rest, hrest⟩ : ∃ rest, generateChars id.toList name.toList time = 'w' :: rest := ⟨_, rfl⟩
  refine ⟨?valid, ?safe, ?least, ?most, ?timed⟩
  case valid =>
    unfold generate
    rw [hrest] at hsafe hmost ⊢
    rw [List.length_cons] at hmost
    exact isValid_of_safe (by decide) hsafe (by omega)
  case safe =>
    rw [hchars]
    exact hsafe
  case least =>
    rw [← String.length_toList, hchars]
    exact le_length_generateChars _ _ _
  case most => exact length_generate_le id name time
  case timed =>
    refine ⟨stemChars id.toList ++ labelChars name.toList, suffixChars time, hchars, suffixChars_length time,
      suffixChars_digit time, ?_⟩
    rw [ofDigitChars_suffixChars, Int.toNat_of_nonneg (Int.fmod_nonneg_of_pos time (by decide))]

theorem ne_empty_of_belongs {id found template : String} (h : belongs id found template = true) : id ≠ "" := by
  rintro rfl
  cases h

/-- **A generated name is taken by the provider, and its session recognises it.** Whatever the id, the name and the
time, it is valid, has 11 to 27 characters, all of them lower-case letters, digits, hyphens and underscores, and ends
in a hyphen and the last four digits of the time. It belongs to the session with that id, unless the id is empty. -/
theorem generate_recognisable (id name : String) (time : Int) :
    IsMade time (generate id name time) ∧
      ∀ template, belongs id (generate id name time) template = true ↔ id ≠ "" :=
  ⟨isMade_generate id name time,
    fun template => ⟨ne_empty_of_belongs, fun hid => belongs_generate hid name time template⟩⟩

/-- A time before the epoch counts from the ten seconds before it, and an id or a name without a letter or a digit
has a stand-in. -/
example : generate "$$" "" (-1) = "ws-session-session-9999" := by decide +kernel

/-- **A generated name tells its parts**, though the short id may hold hyphens and underscores of its own. So two
names are the same if and only if their parts are: the ids agree in their short form, the names in their label, and
the times up to whole tens of seconds. -/
theorem generate_unambiguous (id name : String) (time : Int) (id' name' : String) (time' : Int) :
    Parts.read? (generate id name time) = some (.of id name time) ∧
    (generate id name time = generate id' name' time' ↔ Parts.of id name time = Parts.of id' name' time') ∧
    (generate id name time = generate id' name' time' ↔
      shortId id = shortId id' ∧ labelChars name.toList = labelChars name'.toList ∧
        time % 10000 = time' % 10000) := by
  have hsame := generate_eq_iff id name time id' name' time'
  exact ⟨read_generate id name time, hsame.trans (Parts.of_eq_iff id name time id' name' time').symm, hsame⟩

/-- Hyphens of a short id are no hyphens between the parts. -/
example : Parts.read? (generate "a-b-c" "d" 7) = some ⟨"a-b-c".toList, "d".toList, 7⟩ := by decide +kernel

end WorkspaceName

end SessionKeeper

import Mathlib.Data.List.Basic
import SessionKeeper.Json.Octets

/-!
# How deep a text may be

A text is read where there is room for so many lists and objects inside one another. The room does not matter to what
is read of a text, only to whether it is.

* `Json.read_more` : with more room the same is read, unless there was too little.
* `Json.read_tooDeep` : a text that opens more lists than there is room for cannot be read, whatever follows.
* `Json.ofOctets_brackets` : the same for the octets of such a text.
-/

namespace SessionKeeper.Json

variable {room more : Nat} {b : Builder}

/-! ## More room -/

theorem put_more (hmore : room ≤ more) {t : Token} {result : Except Failure Builder} (h : b.put room t = result)
    (hroom : result ≠ .error .tooDeep) : b.put more t = result := by
  unfold Builder.put at h ⊢
  cases hstep : b.step t with
  | none => rwa [hstep] at h
  | some b' =>
    rw [hstep] at h
    dsimp only at h ⊢
    split_ifs at h with hfull
    · exact absurd h.symm hroom
    · rwa [if_neg (by omega)]

theorem foldlM_put_more (hmore : room ≤ more) {ts : List Token} {result : Except Failure Builder}
    (h : ts.foldlM (Builder.put room) b = result) (hroom : result ≠ .error .tooDeep) :
    ts.foldlM (Builder.put more) b = result := by
  induction ts generalizing b with
  | nil => exact h
  | cons t ts ih =>
    rw [List.foldlM_cons] at h ⊢
    cases hput : b.put room t with
    | error f =>
      rw [hput] at h
      obtain rfl : .error f = result := h
      rw [put_more hmore hput (by simpa using hroom)]
      rfl
    | ok b' =>
      rw [hput] at h
      rw [put_more hmore hput nofun]
      exact ih h

/-- By induction on the text: what was put before does not depend on the room. -/
theorem readFrom_more (hmore : room ≤ more) {state : Lexer} {cs : List Char} {result : Except Failure Json}
    (h : readFrom room state b cs = result) (hroom : result ≠ .error .tooDeep) : readFrom more state b cs = result := by
  induction cs generalizing state b with
  | nil =>
    cases state with
    | between => exact h
    | word acc =>
      unfold readFrom at h ⊢
      cases hword : word? acc.reverse with
      | none => rwa [hword] at h
      | some j =>
        rw [hword] at h
        cases hput : b.put room (.scalar j) with
        | error f =>
          simp only [hput] at h
          obtain rfl : .error f = result := h
          simp only [put_more hmore hput (by simpa using hroom)]
          rfl
        | ok b' =>
          simp only [hput] at h
          simp only [put_more hmore hput nofun]
          exact h
    | _ => exact h
  | cons c rest ih =>
    unfold readFrom at h ⊢
    cases hstep : state.step c with
    | none => rwa [hstep] at h
    | some found =>
      obtain ⟨ts, next⟩ := found
      rw [hstep] at h
      dsimp only at h ⊢
      cases hput : ts.foldlM (Builder.put room) b with
      | error f =>
        rw [hput] at h
        obtain rfl : .error f = result := h
        rw [foldlM_put_more hmore hput (by simpa using hroom)]
      | ok b' =>
        rw [hput] at h
        rw [foldlM_put_more hmore hput nofun]
        exact ih h

theorem read_more (hmore : room ≤ more) {cs : List Char} {result : Except Failure Json} (h : read room cs = result)
    (hroom : result ≠ .error .tooDeep) : read more cs = result := readFrom_more hmore h hroom

/-! ## Too little room -/

theorem readFrom_bracket {frames : List Frame} {expect : Expect} (hexpect : expect = .value ∨ expect = .itemOrClose)
    (rest : List Char) : readFrom room .between ⟨frames, expect⟩ ('[' :: rest) =
      if room ≤ frames.length then .error .tooDeep
      else readFrom room .between ⟨.items [] :: frames, .itemOrClose⟩ rest := by
  have hstep : Lexer.step '[' .between = some ([.mark '['], .between) := rfl
  have hput : Builder.put room ⟨frames, expect⟩ (.mark '[') =
      if room < frames.length + 1 then .error .tooDeep else .ok ⟨.items [] :: frames, .itemOrClose⟩ := by
    rcases hexpect with rfl | rfl <;> rfl
  rw [readFrom, hstep]
  dsimp only
  rw [List.foldlM_cons, hput]
  split_ifs
  · rfl
  · omega
  · omega
  · rfl

theorem readFrom_tooDeep {frames : List Frame} {expect : Expect} (hexpect : expect = .value ∨ expect = .itemOrClose)
    {n : Nat} (hframes : frames.length ≤ room) (hdeep : room < frames.length + n) (rest : List Char) :
    readFrom room .between ⟨frames, expect⟩ (List.replicate n '[' ++ rest) = .error .tooDeep := by
  induction n generalizing frames expect with
  | zero => omega
  | succ n ih =>
    rw [List.replicate_succ, List.cons_append, readFrom_bracket hexpect]
    split_ifs with hfull
    · rfl
    · exact ih (Or.inr rfl) (by simp only [List.length_cons]; omega) (by simp only [List.length_cons]; omega)

/-- A text that opens more lists than there is room for cannot be read, whatever follows. -/
theorem read_tooDeep {n : Nat} (h : room < n) (rest : List Char) :
    read room (List.replicate n '[' ++ rest) = .error .tooDeep :=
  readFrom_tooDeep (Or.inl rfl) (Nat.zero_le _) (by simpa using h) rest

/-! ## Octets -/

theorem scan_plain {bs : List UInt8} (h : ∀ b ∈ bs, b < 128) (halves : Bool) :
    Text.Utf8.scan halves .start bs = bs.map fun b => some (Char.ofNat b.toNat) := by
  induction bs with
  | nil => rfl
  | cons b bs ih =>
    obtain ⟨hb, hbs⟩ := List.forall_mem_cons.mp h
    have hstep : Text.Utf8.step halves b.toNat .start = ([some (Char.ofNat b.toNat)], .start) := if_pos hb
    simp only [Text.Utf8.scan, hstep, ih hbs]
    rfl

theorem textOf_plain {bs : List UInt8} (h : ∀ b ∈ bs, 0 < b ∧ b < 128) :
    textOf? bs = some (bs.map fun b => Char.ofNat b.toNat) := by
  have hdecoded : Text.decodeUtf8? true bs = some (bs.map fun b => Char.ofNat b.toNat) := by
    unfold Text.decodeUtf8?
    rw [scan_plain fun b hb => (h b hb).2, List.mapM_map]
    exact List.mapM_pure
  have hne (b : UInt8) (hb : b ∈ bs) : b ≠ 0 := by
    rintro rfl
    exact absurd (h 0 hb).1 (by decide)
  have hunmarked : marked.find? (fun m => m.1.isPrefixOf bs) = none := by
    cases bs with
    | nil => rfl
    | cons a rest =>
      -- each mark begins with zero or with an octet beyond the basic set
      have hfirst (b : UInt8) (hb : b = 0 ∨ 128 ≤ b) : (b == a) = false := by
        obtain ⟨hpositive, hlow⟩ := h a List.mem_cons_self
        rw [beq_eq_false_iff_ne]
        rintro rfl
        rcases hb with rfl | hhigh
        · exact absurd hpositive (by decide)
        · exact absurd (UInt8.lt_of_lt_of_le hlow hhigh) (UInt8.lt_irrefl b)
      simp [marked, List.isPrefixOf, hfirst 0 (Or.inl rfl), hfirst 0xFF (Or.inr (by decide)),
        hfirst 0xFE (Or.inr (by decide)), hfirst 0xEF (Or.inr (by decide))]
  unfold textOf?
  rw [hunmarked]
  unfold unmarked?
  rcases bs with _ | ⟨a, _ | ⟨b, _ | ⟨c, _ | ⟨d, rest⟩⟩⟩⟩
  · exact hdecoded
  · exact hdecoded
  · exact (if_neg (hne a (by simp))).trans ((if_neg (hne b (by simp))).trans hdecoded)
  · exact hdecoded
  · exact (if_neg (hne a (by simp))).trans ((if_neg (hne b (by simp))).trans hdecoded)

theorem ofOctets_brackets {n : Nat} (h : room < n) (closed : Nat) :
    ofOctets room (List.replicate n 91 ++ List.replicate closed 93) = .error .tooDeep := by
  have htext : textOf? (List.replicate n 91 ++ List.replicate closed 93) =
      some (List.replicate n '[' ++ List.replicate closed ']') := by
    rw [textOf_plain fun b hb => ?_]
    · simp
    · simp at hb
      rcases hb with ⟨-, rfl⟩ | ⟨-, rfl⟩ <;> decide
  unfold ofOctets
  rw [htext]
  exact read_tooDeep h _

end SessionKeeper.Json

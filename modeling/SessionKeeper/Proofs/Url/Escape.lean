import Mathlib.Tactic.Common
import SessionKeeper.Url.Escape

/-!
# What escapes stand for

A text that is escaped stands for the same octets as before, and these are its own octets as far as it holds no escapes
itself.

* `Text.encodeUtf8_injective` : texts with the same octets are the same.
* `Url.beginsEscape`, `Url.escape_induction` : a text is read escape by escape, and character by character in between.
* `Url.unescape_escape` : escaping a text does not change what it stands for.
* `Url.HasEscape`, `Url.unescape_eq`, `Url.length_unescape_lt` : a text without escapes stands for its own octets, one
  with escapes for fewer.
* `Url.escape_append`, `Url.unescape_append` : what follows from a slash on is escaped and read for itself.
-/

namespace SessionKeeper

/-! ## Octets of a text -/

namespace Text

theorem encodeChar_eq (c : Char) : encodeChar c = String.utf8EncodeChar c := by
  have hvalid : c.toNat < 0x110000 := by
    have hcode := c.valid
    simp only [UInt32.isValidChar, Nat.isValidChar] at hcode
    simp only [Char.toNat]
    omega
  have hoctet {m n : Nat} (hmn : m = n) : m.toUInt8 = UInt8.ofNat n := congrArg UInt8.ofNat hmn
  have hval : c.val.toNat = c.toNat := rfl
  unfold encodeChar String.utf8EncodeChar
  dsimp only
  rw [hval]
  generalize c.toNat = n at hvalid
  rcases Nat.lt_or_ge n 0x80 with hone | hone
  · rw [if_pos hone, if_pos (by omega)]
  rw [if_neg (by omega), if_neg (show ¬ n ≤ 127 by omega)]
  rcases Nat.lt_or_ge n 0x800 with htwo | htwo
  · rw [if_pos htwo, if_pos (by omega), hoctet (show 0xC0 + n / 64 = n / 64 % 32 + 192 by omega),
      hoctet (Nat.add_comm ..)]
  rw [if_neg (by omega), if_neg (show ¬ n ≤ 2047 by omega)]
  rcases Nat.lt_or_ge n 0x10000 with hthree | hthree
  · rw [if_pos hthree, if_pos (by omega), hoctet (show 0xE0 + n / 4096 = n / 4096 % 16 + 224 by omega),
      hoctet (Nat.add_comm 0x80 (n / 64 % 64)), hoctet (Nat.add_comm 0x80 (n % 64))]
  · rw [if_neg (by omega), if_neg (by omega), hoctet (show 0xF0 + n / 262144 = n / 262144 % 8 + 240 by omega),
      hoctet (Nat.add_comm 0x80 (n / 4096 % 64)), hoctet (Nat.add_comm 0x80 (n / 64 % 64)),
      hoctet (Nat.add_comm 0x80 (n % 64))]

theorem encodeUtf8_injective {cs ds : List Char} (h : encodeUtf8 cs = encodeUtf8 ds) : cs = ds := by
  have hencode (es : List Char) : (encodeUtf8 es).toByteArray = es.utf8Encode := by
    unfold encodeUtf8 List.utf8Encode
    rw [funext encodeChar_eq]
  have hdecode : cs.utf8Encode.utf8Decode? = ds.utf8Encode.utf8Decode? := by
    rw [← hencode, ← hencode, h]
  rw [List.utf8Decode?_utf8Encode, List.utf8Decode?_utf8Encode] at hdecode
  simpa using hdecode

theorem one_le_encodeChar (c : Char) : 1 ≤ (encodeChar c).length := by
  unfold encodeChar
  dsimp only
  split_ifs <;> simp

theorem length_encodeUtf8_pos {cs : List Char} (h : cs ≠ []) : 0 < (encodeUtf8 cs).length := by
  obtain ⟨c, rest, rfl⟩ := List.exists_cons_of_ne_nil h
  have hone := one_le_encodeChar c
  simp only [encodeUtf8, List.flatMap_cons, List.length_append]
  omega

end Text

namespace Url

open Text

/-! ## Escapes -/

theorem isHex_hexDigit : ∀ n < 16, isHex (hexDigit n) = true := by decide

theorem hexDigitValue_hexDigit : ∀ n < 16, hexDigitValue (hexDigit n) = n := by decide

def beginsEscape : List Char → Bool
  | '%' :: a :: b :: _ => isHex a && isHex b
  | _ => false

/-- A text is read escape by escape, and character by character in between. -/
theorem escape_induction {P : List Char → Prop} (nil : P [])
    (escaped : ∀ a b rest, isHex a = true → isHex b = true → P rest → P ('%' :: a :: b :: rest))
    (plain : ∀ c rest, beginsEscape (c :: rest) = false → P rest → P (c :: rest)) (cs : List Char) : P cs := by
  -- on the length, since an escape takes three characters at once
  induction hn : cs.length using Nat.strongRecOn generalizing cs with
  | ind n ih =>
    subst hn
    cases cs with
    | nil => exact nil
    | cons c rest =>
      cases hescape : beginsEscape (c :: rest) with
      | false => exact plain c rest hescape (ih rest.length (by simp) rest rfl)
      | true =>
        unfold beginsEscape at hescape
        split at hescape
        next a b tail heq =>
          obtain ⟨rfl, rfl⟩ := List.cons.inj heq
          rw [Bool.and_eq_true] at hescape
          exact escaped a b tail hescape.1 hescape.2 (ih tail.length (by simp; omega) tail rfl)
        next => cases hescape

theorem escape_escaped {safe : Char → Bool} {a b : Char} (ha : isHex a = true) (hb : isHex b = true)
    (rest : List Char) : escape safe ('%' :: a :: b :: rest) = '%' :: a :: b :: escape safe rest := by
  rw [escape, ha, hb]
  rfl

theorem unescape_escaped {a b : Char} (ha : isHex a = true) (hb : isHex b = true) (rest : List Char) :
    unescape ('%' :: a :: b :: rest) = (hexDigitValue a * 16 + hexDigitValue b).toUInt8 :: unescape rest := by
  rw [unescape, ha, hb]
  rfl

theorem escape_plain {safe : Char → Bool} {c : Char} {rest : List Char} (h : beginsEscape (c :: rest) = false) :
    escape safe (c :: rest) = (if isUnreserved c || safe c then [c] else escapeChar c) ++ escape safe rest := by
  rw [escape.eq_def]
  split
  next heq => cases heq
  next a b tail heq =>
    obtain ⟨rfl, rfl⟩ := List.cons.inj heq
    have hhex : (isHex a && isHex b) = false := h
    rw [hhex]
    rfl
  next heq =>
    obtain ⟨rfl, rfl⟩ := List.cons.inj heq
    rfl

theorem unescape_plain {c : Char} {rest : List Char} (h : beginsEscape (c :: rest) = false) :
    unescape (c :: rest) = encodeChar c ++ unescape rest := by
  rw [unescape.eq_def]
  split
  next heq => cases heq
  next a b tail heq =>
    obtain ⟨rfl, rfl⟩ := List.cons.inj heq
    have hhex : (isHex a && isHex b) = false := h
    rw [hhex]
    rfl
  next heq =>
    obtain ⟨rfl, rfl⟩ := List.cons.inj heq
    rfl

/-! ## Reading what was escaped -/

theorem beginsEscape_of_ne {c : Char} (h : c ≠ '%') (rest : List Char) : beginsEscape (c :: rest) = false := by
  unfold beginsEscape
  split
  next heq => exact absurd (List.cons.inj heq).1 h
  next => rfl

theorem unescape_escapeByte (b : UInt8) (rest : List Char) : unescape (escapeByte b ++ rest) = b :: unescape rest := by
  have hb : b.toNat < 256 := b.toNat_lt
  have hhigh : b.toNat / 16 < 16 := by omega
  have hlow : b.toNat % 16 < 16 := by omega
  show unescape ('%' :: hexDigit _ :: hexDigit _ :: rest) = _
  rw [unescape_escaped (isHex_hexDigit _ hhigh) (isHex_hexDigit _ hlow), hexDigitValue_hexDigit _ hhigh,
    hexDigitValue_hexDigit _ hlow, show b.toNat / 16 * 16 + b.toNat % 16 = b.toNat by omega]
  simp

theorem unescape_escapeChar (c : Char) (rest : List Char) :
    unescape (escapeChar c ++ rest) = encodeChar c ++ unescape rest := by
  unfold escapeChar
  induction encodeChar c with
  | nil => rfl
  | cons b bs ih => rw [List.flatMap_cons, List.append_assoc, unescape_escapeByte, ih, List.cons_append]

theorem isUnreserved_of_isHex {c : Char} (h : isHex c = true) : isUnreserved c = true := by
  unfold isHex Decimal.isDigit at h
  unfold isUnreserved Char.isAlphanum Char.isAlpha Char.isDigit Char.isLower Char.isUpper
  simp only [Bool.or_eq_true, Bool.and_eq_true, decide_eq_true_eq, Char.le_def] at h ⊢
  rcases h with (⟨hlow, hhigh⟩ | ⟨hlow, hhigh⟩) | ⟨hlow, hhigh⟩
  · tauto
  · have hletter : c.val ≤ 'z'.val := UInt32.le_trans hhigh (by decide)
    tauto
  · have hletter : c.val ≤ 'Z'.val := UInt32.le_trans hhigh (by decide)
    tauto

/-- Whether the text goes on with a hexadecimal digit. -/
def goesHex (cs : List Char) : Bool := cs.head?.any isHex

theorem beginsEscape_percent (rest : List Char) :
    beginsEscape ('%' :: rest) = (goesHex rest && goesHex rest.tail) := by
  rcases rest with _ | ⟨a, _ | ⟨b, tail⟩⟩
  · rfl
  · simp [beginsEscape, goesHex]
  · rfl

section

variable (safe : Char → Bool)

theorem escape_hex {c : Char} (h : isHex c = true) (rest : List Char) :
    escape safe (c :: rest) = c :: escape safe rest := by
  have hne : c ≠ '%' := by
    rintro rfl
    cases h
  rw [escape_plain (beginsEscape_of_ne hne rest), isUnreserved_of_isHex h]
  rfl

theorem exists_escapeChar (c : Char) : ∃ rest, escapeChar c = '%' :: rest := by
  unfold escapeChar
  cases hencode : encodeChar c with
  | nil =>
    have hone := one_le_encodeChar c
    rw [hencode] at hone
    cases hone
  | cons b bs => exact ⟨_, rfl⟩

theorem goesHex_escape (cs : List Char) : goesHex (escape safe cs) = goesHex cs := by
  induction cs using escape_induction with
  | nil => rfl
  | escaped a b rest ha hb =>
    rw [escape_escaped ha hb]
    rfl
  | plain c rest hplain =>
    cases hc : isHex c with
    | true =>
      rw [escape_hex safe hc]
      rfl
    | false =>
      rw [escape_plain hplain]
      split_ifs with hkept
      · rfl
      · obtain ⟨tail, htail⟩ := exists_escapeChar c
        rw [htail]
        exact hc.symm

/-- A percent sign that begins no escape begins none after the text behind it is escaped. -/
theorem beginsEscape_escape {rest : List Char} (h : beginsEscape ('%' :: rest) = false) :
    beginsEscape ('%' :: escape safe rest) = false := by
  rw [beginsEscape_percent] at h ⊢
  rw [goesHex_escape]
  rcases rest with _ | ⟨c, rest⟩
  · rfl
  · cases hc : isHex c with
    | false =>
      have hgoes : goesHex (c :: rest) = false := hc
      rw [hgoes, Bool.false_and]
    | true =>
      rw [escape_hex safe hc, List.tail_cons, goesHex_escape]
      exact h

theorem unescape_escape (cs : List Char) : unescape (escape safe cs) = unescape cs := by
  induction cs using escape_induction with
  | nil => rfl
  | escaped a b rest ha hb ih => rw [escape_escaped ha hb, unescape_escaped ha hb, unescape_escaped ha hb, ih]
  | plain c rest hplain ih =>
    rw [escape_plain hplain, unescape_plain hplain, ← ih]
    split_ifs with hkept
    · have hstill : beginsEscape (c :: escape safe rest) = false := by
        by_cases hc : c = '%'
        · subst hc
          exact beginsEscape_escape safe hplain
        · exact beginsEscape_of_ne hc _
      rw [List.singleton_append, unescape_plain hstill]
    · exact unescape_escapeChar c _

end

/-! ## Texts without escapes -/

/-- Somewhere in the text there is an escape. -/
def HasEscape (cs : List Char) : Prop := ∃ back ∈ cs.tails, beginsEscape back = true

instance : DecidablePred HasEscape := fun cs => inferInstanceAs (Decidable (∃ back ∈ cs.tails, _))

theorem hasEscape_cons {c : Char} {rest : List Char} (h : beginsEscape (c :: rest) = false) :
    HasEscape (c :: rest) ↔ HasEscape rest := by
  constructor
  · rintro ⟨back, hback, hescape⟩
    rcases List.mem_cons.mp hback with rfl | hback
    · rw [h] at hescape
      cases hescape
    · exact ⟨back, hback, hescape⟩
  · rintro ⟨back, hback, hescape⟩
    exact ⟨back, List.mem_cons_of_mem _ hback, hescape⟩

theorem unescape_eq {cs : List Char} (h : ¬ HasEscape cs) : unescape cs = encodeUtf8 cs := by
  induction cs using escape_induction with
  | nil => rfl
  | escaped a b rest ha hb => exact absurd ⟨_, List.mem_cons_self, by simp [beginsEscape, ha, hb]⟩ h
  | plain c rest hplain ih =>
    rw [hasEscape_cons hplain] at h
    rw [unescape_plain hplain, ih h]
    rfl

theorem length_unescape_le (cs : List Char) : (unescape cs).length ≤ (encodeUtf8 cs).length := by
  induction cs using escape_induction with
  | nil => exact Nat.le_refl _
  | escaped a b rest ha hb ih =>
    rw [unescape_escaped ha hb]
    simp only [encodeUtf8, List.flatMap_cons, List.length_append, List.length_cons] at ih ⊢
    have hone := one_le_encodeChar '%'
    omega
  | plain c rest hplain ih =>
    rw [unescape_plain hplain]
    simp only [encodeUtf8, List.flatMap_cons, List.length_append] at ih ⊢
    omega

theorem length_unescape_lt {cs : List Char} (h : HasEscape cs) : (unescape cs).length < (encodeUtf8 cs).length := by
  induction cs using escape_induction with
  | nil =>
    obtain ⟨back, hback, hescape⟩ := h
    rw [List.mem_singleton.mp hback] at hescape
    cases hescape
  | escaped a b rest ha hb =>
    have hle := length_unescape_le rest
    have hpercent := one_le_encodeChar '%'
    have hfirst := one_le_encodeChar a
    rw [unescape_escaped ha hb]
    simp only [encodeUtf8, List.flatMap_cons, List.length_append, List.length_cons] at hle ⊢
    omega
  | plain c rest hplain ih =>
    have hrest := ih ((hasEscape_cons hplain).mp h)
    rw [unescape_plain hplain]
    simp only [encodeUtf8, List.flatMap_cons, List.length_append] at hrest ⊢
    omega

/-! ## Slashes -/

/-- The text is empty or begins with a slash. -/
def Rooted (cs : List Char) : Prop := ∀ c ∈ cs.head?, c = '/'

theorem Rooted.nil : Rooted [] := nofun

theorem Rooted.slash (cs : List Char) : Rooted ('/' :: cs) := by
  rintro c ⟨⟩
  rfl

theorem Rooted.append {cs t : List Char} (hcs : Rooted cs) (ht : Rooted t) : Rooted (cs ++ t) := by
  cases cs with
  | nil => exact ht
  | cons c cs => exact hcs

theorem goesHex_append {t : List Char} (ht : Rooted t) (cs : List Char) : goesHex (cs ++ t) = goesHex cs := by
  cases cs with
  | cons c rest => rfl
  | nil =>
    cases t with
    | nil => rfl
    | cons c rest =>
      obtain rfl := ht c rfl
      rfl

theorem beginsEscape_append {t : List Char} (ht : Rooted t) (c : Char) (cs : List Char) :
    beginsEscape (c :: (cs ++ t)) = beginsEscape (c :: cs) := by
  by_cases hc : c = '%'
  · subst hc
    rw [beginsEscape_percent, beginsEscape_percent, goesHex_append ht]
    cases cs with
    | nil => rfl
    | cons d rest => rw [List.cons_append, List.tail_cons, List.tail_cons, goesHex_append ht]
  · rw [beginsEscape_of_ne hc, beginsEscape_of_ne hc]

theorem escape_append (safe : Char → Bool) {t : List Char} (ht : Rooted t) (cs : List Char) :
    escape safe (cs ++ t) = escape safe cs ++ escape safe t := by
  induction cs using escape_induction with
  | nil => rfl
  | escaped a b rest ha hb ih =>
    rw [escape_escaped ha hb, List.cons_append, List.cons_append, List.cons_append, escape_escaped ha hb, ih]
    rfl
  | plain c rest hplain ih =>
    have hstill := (beginsEscape_append ht c rest).trans hplain
    rw [escape_plain hplain, List.cons_append, escape_plain hstill, ih, List.append_assoc]

theorem unescape_append {t : List Char} (ht : Rooted t) (cs : List Char) :
    unescape (cs ++ t) = unescape cs ++ unescape t := by
  induction cs using escape_induction with
  | nil => rfl
  | escaped a b rest ha hb ih =>
    rw [unescape_escaped ha hb, List.cons_append, List.cons_append, List.cons_append, unescape_escaped ha hb, ih]
    rfl
  | plain c rest hplain ih =>
    have hstill := (beginsEscape_append ht c rest).trans hplain
    rw [unescape_plain hplain, List.cons_append, unescape_plain hstill, ih, List.append_assoc]

theorem escape_kept {safe : Char → Bool} {c : Char} (hc : c ≠ '%') (hsafe : (isUnreserved c || safe c) = true)
    (cs : List Char) : escape safe (c :: cs) = c :: escape safe cs := by
  rw [escape_plain (beginsEscape_of_ne hc cs), if_pos hsafe]
  rfl

theorem unescape_slash (cs : List Char) : unescape ('/' :: cs) = 47 :: unescape cs :=
  unescape_plain (beginsEscape_of_ne (by decide) cs)

theorem mem_escape {safe : Char → Bool} {cs : List Char} {c : Char} (h : c ∈ escape safe cs) :
    c ∈ cs ∨ c = '%' ∨ isHex c = true := by
  induction cs using escape_induction with
  | nil => cases h
  | escaped a b rest ha hb ih =>
    rw [escape_escaped ha hb] at h
    simp only [List.mem_cons] at h ⊢
    tauto
  | plain d rest hplain ih =>
    rw [escape_plain hplain, List.mem_append] at h
    rcases h with h | h
    · split_ifs at h with hkept
      · rw [List.mem_singleton] at h
        subst h
        exact Or.inl List.mem_cons_self
      · unfold escapeChar at h
        obtain ⟨b, -, hb⟩ := List.mem_flatMap.mp h
        have hlow : b.toNat % 16 < 16 := by omega
        have hhigh : b.toNat / 16 < 16 := by
          have hb := b.toNat_lt
          omega
        simp only [escapeByte, List.mem_cons, List.not_mem_nil, or_false] at hb
        rcases hb with rfl | rfl | rfl
        · exact Or.inr (Or.inl rfl)
        · exact Or.inr (Or.inr (isHex_hexDigit _ hhigh))
        · exact Or.inr (Or.inr (isHex_hexDigit _ hlow))
    · rcases ih h with hmem | hescaped
      · exact Or.inl (List.mem_cons_of_mem d hmem)
      · exact Or.inr hescaped

end Url

end SessionKeeper

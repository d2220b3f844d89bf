import Mathlib.Data.List.Basic
import Mathlib.Data.List.TakeWhile
import SessionKeeper.Proofs.Decimal.Digits
import SessionKeeper.Proofs.Moment.Calendar

/-!
# Moments that are read back

The text of a moment is read part by part, each whatever follows it, and what is read is the moment. The other way
round, whatever is read as a moment has a date of the calendar and a time of the day.

* `Moment.twoDigits_fixed`, `Moment.date_fixed`, `Moment.seconds_text`, `Moment.offset_text` : the parts of a text.
* `Moment.read_chars` : a moment is read back from its text.
* `Moment.Sound`, `Moment.sound_read`, `Moment.sound_ofNumber` : what is read, as text or as a number.
* `Moment.AllBasic.chars` : the text of a moment is in ASCII.
-/

namespace SessionKeeper.Moment

open Decimal

/-! ## Parts of a text -/

theorem twoDigits_fixed {n : Nat} (h : n < 100) (rest : List Char) :
    twoDigits? (fixed 2 n ++ rest) = some (n, rest) := by
  have hwrites : Writes (fixed 2 n) 2 n := writes_padded (by decide) h
  obtain ⟨a, b, hfixed⟩ := List.length_eq_two.mp hwrites.length
  rw [hfixed] at hwrites ⊢
  have hdigits : (isDigit a && isDigit b) = true := by
    rw [hwrites.digits a (by simp), hwrites.digits b (by simp)]
    rfl
  rw [List.cons_append, List.cons_append, List.nil_append, twoDigits?, if_pos hdigits, hwrites.value]

theorem date_fixed {year month day : Nat} (h : IsDate year month day) (hyear : year ≤ 9999) (rest : List Char) :
    date? (fixed 4 year ++ '-' :: fixed 2 month ++ '-' :: fixed 2 day ++ rest) = some ((year, month, day), rest) := by
  have hdays : daysIn year month ≤ 31 := by
    unfold daysIn
    split <;> (try split_ifs) <;> decide
  obtain ⟨hmonth, hmonths, hday, hlast⟩ := h
  have hy : Writes (fixed 4 year) 4 year := writes_padded (by decide) (by omega)
  have hm : Writes (fixed 2 month) 2 month := writes_padded (by decide) (by omega)
  have hd : Writes (fixed 2 day) 2 day := writes_padded (by decide) (by omega)
  obtain ⟨e, f, hfixed⟩ := List.length_eq_two.mp hm.length
  obtain ⟨g, i, hfixed'⟩ := List.length_eq_two.mp hd.length
  obtain ⟨a, b, c, d, hfixed''⟩ := List.length_eq_four.mp hy.length
  rw [hfixed] at hm ⊢
  rw [hfixed'] at hd ⊢
  rw [hfixed''] at hy ⊢
  have hdigits : [a, b, c, d, e, f, g, i].all isDigit = true := by
    have hall := And.intro hy.digits (And.intro hm.digits hd.digits)
    simp only [List.forall_mem_cons] at hall
    simp [hall]
  simp only [List.cons_append, List.nil_append]
  rw [date?, if_pos hdigits]
  dsimp only
  rw [hy.value, hm.value, hd.value, if_pos (by simp [hmonth, hmonths, hday, hlast])]

/-- The distance from universal time as text; nothing if there is none. -/
def zoneText : Option Int → List Char
  | none => []
  | some o => offsetText o

/-- A fraction of a second as text; nothing if there is none. -/
def fractionText (micro : Nat) : List Char := if micro = 0 then [] else '.' :: fixed 6 micro

/-- Hours and minutes of a distance from universal time, behind its sign. -/
def zone? (negative : Bool) (rest : List Char) : Option (Option Int) := do
  let (hours, rest) ← twoDigits? rest
  let (minutes, rest) ← twoDigits? (match rest with
    | ':' :: more => more
    | _ => rest)
  if rest.isEmpty && hours < 24 && minutes < 60 then
    let total : Int := hours * 60 + minutes
    some (some (if negative then -total else total))
  else none

theorem offset_plus (rest : List Char) : offset? ('+' :: rest) = zone? false rest := rfl

theorem offset_minus (rest : List Char) : offset? ('-' :: rest) = zone? true rest := rfl

theorem zone_fixed {hours minutes : Nat} (hhours : hours < 24) (hminutes : minutes < 60) (negative : Bool) :
    zone? negative (fixed 2 hours ++ ':' :: fixed 2 minutes) =
      some (some (if negative then -((hours : Int) * 60 + minutes) else (hours : Int) * 60 + minutes)) := by
  have hlast : twoDigits? (fixed 2 minutes) = some (minutes, []) := by
    rw [← List.append_nil (fixed 2 minutes), twoDigits_fixed (by omega)]
  unfold zone?
  rw [twoDigits_fixed (by omega), Option.bind_eq_bind, Option.bind_some]
  show (twoDigits? (fixed 2 minutes)).bind _ = _
  rw [hlast, Option.bind_some]
  dsimp only
  rw [if_pos (by simp [hhours, hminutes])]

theorem offset_text {o : Option Int} (h : ∀ i, o = some i → i.natAbs < 1440) : offset? (zoneText o) = some o := by
  cases o with
  | none => rfl
  | some i =>
    have hsize := h i rfl
    show offset? (offsetText i) = some (some i)
    unfold offsetText
    split_ifs with hneg
    · rw [offset_minus, zone_fixed (by omega) (by omega), if_pos rfl]
      congr 2
      omega
    · rw [offset_plus, zone_fixed (by omega) (by omega), if_neg Bool.false_ne_true]
      congr 2
      omega

def fraction? (second : Nat) (tail : List Char) : Option ((Nat × Nat) × List Char) :=
  let ds := tail.takeWhile isDigit
  if ds.isEmpty then none
  else some ((second, ofDigits (ds.take 6 ++ List.replicate (6 - (ds.take 6).length) '0')), tail.dropWhile isDigit)

/-- What follows the digits of the seconds. -/
def afterSecond? (second : Nat) (rest : List Char) : Option ((Nat × Nat) × List Char) :=
  match rest with
  | '.' :: tail => fraction? second tail
  | ',' :: tail => fraction? second tail
  | _ => some ((second, 0), rest)

theorem seconds_colon (rest : List Char) :
    seconds? (':' :: rest) =
      (twoDigits? rest).bind fun p => if 60 ≤ p.1 then none else afterSecond? p.1 p.2 := rfl

/-- What follows the seconds in a text neither goes on with digits nor begins a fraction. -/
def EndsSeconds (rest : List Char) : Prop := ∀ c ∈ rest.head?, isDigit c = false ∧ c ≠ '.' ∧ c ≠ ','

theorem endsSeconds_zoneText (o : Option Int) : EndsSeconds (zoneText o) := by
  cases o with
  | none => rintro c ⟨⟩
  | some i =>
    rintro c hc
    obtain rfl : (if i < 0 then '-' else '+') = c := Option.some.inj hc
    split_ifs <;> decide

theorem afterSecond_text {second micro : Nat} (hmicro : micro < 1000000) {rest : List Char} (hrest : EndsSeconds rest) :
    afterSecond? second (fractionText micro ++ rest) = some ((second, micro), rest) := by
  unfold fractionText
  split_ifs with hnone
  · subst hnone
    unfold afterSecond?
    rw [List.nil_append]
    split
    · exact absurd rfl (hrest '.' rfl).2.1
    · exact absurd rfl (hrest ',' rfl).2.2
    · rfl
  · have hwrites : Writes (fixed 6 micro) 6 micro := writes_padded (by decide) hmicro
    have hstop : rest.takeWhile isDigit = [] ∧ rest.dropWhile isDigit = rest := by
      cases rest with
      | nil => exact ⟨rfl, rfl⟩
      | cons c rest =>
        have hc := (hrest c rfl).1
        rw [List.takeWhile_cons, List.dropWhile_cons, hc]
        exact ⟨rfl, rfl⟩
    have htake : (fixed 6 micro ++ rest).takeWhile isDigit = fixed 6 micro := by
      rw [List.takeWhile_append_of_pos hwrites.digits, hstop.1, List.append_nil]
    have hdrop : (fixed 6 micro ++ rest).dropWhile isDigit = rest := by
      rw [List.dropWhile_append_of_pos hwrites.digits, hstop.2]
    have hfilled : ¬ (fixed 6 micro).isEmpty = true := by
      rw [List.isEmpty_iff_length_eq_zero, hwrites.length]
      decide
    show fraction? second (fixed 6 micro ++ rest) = _
    unfold fraction?
    rw [htake, hdrop]
    dsimp only
    rw [if_neg hfilled, List.take_of_length_le (Nat.le_of_eq hwrites.length), hwrites.length, Nat.sub_self,
      List.replicate_zero, List.append_nil, hwrites.value]

theorem seconds_text {second micro : Nat} (hsecond : second < 60) (hmicro : micro < 1000000) {rest : List Char}
    (hrest : EndsSeconds rest) :
    seconds? (':' :: fixed 2 second ++ (fractionText micro ++ rest)) = some ((second, micro), rest) := by
  rw [List.cons_append, seconds_colon, twoDigits_fixed (by omega), Option.bind_some]
  dsimp only
  rw [if_neg (by omega), afterSecond_text hmicro hrest]

/-! ## Moments -/

/-- A time of day and what follows it, behind the date. -/
def timeOn? (date : Nat × Nat × Nat) (rest : List Char) : Option Moment := do
  let (hour, rest) ← twoDigits? rest
  match rest with
  | ':' :: rest =>
    let (minute, rest) ← twoDigits? rest
    let ((second, micro), rest) ← seconds? rest
    let offset ← offset? rest
    if hour < 24 && minute < 60 then
      some ⟨date.1, date.2.1, date.2.2, hour, minute, second, micro, offset⟩
    else none
  | _ => none

theorem dateTime_eq (cs : List Char) :
    dateTime? cs = (date? cs).bind fun p =>
      match p.2 with
      | sep :: rest => if sep = 'T' || sep = 't' || sep = ' ' || sep = '_' then timeOn? p.1 rest else none
      | [] => none := rfl

theorem chars_eq (m : Moment) :
    m.chars = fixed 4 m.year ++ '-' :: fixed 2 m.month ++ '-' :: fixed 2 m.day ++
      'T' :: (fixed 2 m.hour ++ ':' :: (fixed 2 m.minute ++
        (':' :: fixed 2 m.second ++ (fractionText m.micro ++ zoneText m.offset)))) := by
  show fixed 4 m.year ++ '-' :: fixed 2 m.month ++ '-' :: fixed 2 m.day ++ 'T' :: fixed 2 m.hour ++
    ':' :: fixed 2 m.minute ++ ':' :: fixed 2 m.second ++ fractionText m.micro ++ zoneText m.offset = _
  simp only [List.append_assoc, List.cons_append]

theorem timeOn_text {m : Moment} (h : m.IsValid) :
    timeOn? (m.year, m.month, m.day) (fixed 2 m.hour ++ ':' :: (fixed 2 m.minute ++
      (':' :: fixed 2 m.second ++ (fractionText m.micro ++ zoneText m.offset)))) = some m := by
  have hhour := h.hour
  have hminute := h.minute
  unfold timeOn?
  rw [twoDigits_fixed (by omega), Option.bind_eq_bind, Option.bind_some]
  show (twoDigits? _).bind _ = _
  rw [twoDigits_fixed (by omega), Option.bind_some]
  dsimp only
  rw [seconds_text h.second h.micro (endsSeconds_zoneText m.offset), Option.bind_eq_bind, Option.bind_some]
  dsimp only
  rw [offset_text h.offset, Option.bind_eq_bind, Option.bind_some, if_pos (by simp [hhour, hminute])]

theorem dateTime_chars {m : Moment} (h : m.IsValid) : dateTime? m.chars = some m := by
  rw [chars_eq, dateTime_eq, date_fixed h.date h.year, Option.bind_some]
  exact timeOn_text h

theorem inRange_eq_ok {m n : Moment} : inRange m = .ok n ↔ m = n ∧ n.year ≠ 0 := by
  unfold inRange
  split_ifs with hyear
  · refine iff_of_false nofun ?_
    rintro ⟨rfl, hpos⟩
    exact hpos hyear
  · rw [Except.ok.injEq]
    refine (and_iff_left_of_imp ?_).symm
    rintro rfl
    exact hyear

/-- A valid moment with a year from 1 on. -/
structure Dated (m : Moment) : Prop where
  valid : m.IsValid
  year : m.year ≠ 0

theorem read_chars {m : Moment} (h : m.Dated) : read m.chars = .ok m := by
  unfold read
  rw [dateTime_chars h.valid]
  exact inRange_eq_ok.mpr ⟨rfl, h.year⟩

/-! ## What is read -/

theorem isDate_of_date {cs rest : List Char} {date : Nat × Nat × Nat} (h : date? cs = some (date, rest)) :
    IsDate date.1 date.2.1 date.2.2 ∧ date.1 ≤ 9999 := by
  unfold date? at h
  split at h
  · dsimp only at h
    split_ifs at h with hdigits hdate
    obtain ⟨rfl, -⟩ := Prod.mk.inj (Option.some.inj h)
    simp only [Bool.and_eq_true, decide_eq_true_eq] at hdate
    simp only [List.all_cons, Bool.and_eq_true] at hdigits
    rename_i a b c d _ _ _ _ _
    have hyear : ofDigits [a, b, c, d] < 10 ^ 4 := ofDigits_lt (by simp [hdigits])
    exact ⟨⟨hdate.1.1.1, hdate.1.1.2, hdate.1.2, hdate.2⟩, Nat.le_of_lt_succ hyear⟩
  · cases h

theorem of_fraction {second : Nat} {tail rest : List Char} {p : Nat × Nat}
    (h : fraction? second tail = some (p, rest)) : p.1 = second ∧ p.2 < 1000000 := by
  unfold fraction? at h
  dsimp only at h
  split_ifs at h
  obtain ⟨rfl, -⟩ := Prod.mk.inj (Option.some.inj h)
  refine ⟨rfl, ?_⟩
  generalize hsix : (tail.takeWhile isDigit).take 6 = six
  have hlength : six.length ≤ 6 := hsix ▸ List.length_take_le 6 _
  have hdigits : ∀ c ∈ six ++ List.replicate (6 - six.length) '0', isDigit c = true := by
    intro c hc
    rcases List.mem_append.mp hc with hsome | hzero
    · rw [← hsix] at hsome
      exact List.mem_takeWhile_imp (List.mem_of_mem_take hsome)
    · rw [List.eq_of_mem_replicate hzero]
      decide
  have hlt := ofDigits_lt hdigits
  rw [List.length_append, List.length_replicate, Nat.add_sub_cancel' hlength] at hlt
  exact hlt

theorem of_afterSecond {second : Nat} {cs rest : List Char} {p : Nat × Nat}
    (h : afterSecond? second cs = some (p, rest)) : p.1 = second ∧ p.2 < 1000000 := by
  unfold afterSecond? at h
  split at h
  · exact of_fraction h
  · exact of_fraction h
  · obtain ⟨rfl, -⟩ := Prod.mk.inj (Option.some.inj h)
    exact ⟨rfl, (by decide : 0 < 1000000)⟩

theorem of_seconds {cs rest : List Char} {p : Nat × Nat} (h : seconds? cs = some (p, rest)) :
    p.1 < 60 ∧ p.2 < 1000000 := by
  by_cases hcolon : ∃ more, cs = ':' :: more
  · obtain ⟨more, rfl⟩ := hcolon
    rw [seconds_colon] at h
    obtain ⟨⟨second, after⟩, -, hafter⟩ := Option.bind_eq_some_iff.mp h
    dsimp only at hafter
    split_ifs at hafter with hlate
    obtain ⟨hsecond, hmicro⟩ := of_afterSecond hafter
    exact ⟨by omega, hmicro⟩
  · unfold seconds? at h
    split at h
    · exact absurd ⟨_, rfl⟩ hcolon
    · obtain ⟨rfl, -⟩ := Prod.mk.inj (Option.some.inj h)
      decide

theorem of_zone {negative : Bool} {cs : List Char} {o : Option Int} (h : zone? negative cs = some o) :
    ∀ i, o = some i → i.natAbs < 1440 := by
  unfold zone? at h
  obtain ⟨⟨hours, rest⟩, -, hhours⟩ := Option.bind_eq_some_iff.mp h
  obtain ⟨⟨minutes, last⟩, -, hminutes⟩ := Option.bind_eq_some_iff.mp hhours
  dsimp only at hminutes
  split at hminutes
  · rename_i hrange
    simp only [Bool.and_eq_true, decide_eq_true_eq] at hrange
    rintro i rfl
    have hi := Option.some.inj (Option.some.inj hminutes)
    split_ifs at hi <;> omega
  · cases hminutes

theorem of_offset {cs : List Char} {o : Option Int} (h : offset? cs = some o) :
    ∀ i, o = some i → i.natAbs < 1440 := by
  unfold offset? at h
  dsimp only at h
  split at h
  · obtain rfl := Option.some.inj h
    exact nofun
  · obtain rfl := Option.some.inj h
    rintro i ⟨⟩
    decide
  · obtain rfl := Option.some.inj h
    rintro i ⟨⟩
    decide
  · exact of_zone h
  · exact of_zone h
  · exact of_zone h
  · cases h

theorem isValid_of_dateTime {cs : List Char} {m : Moment} (h : dateTime? cs = some m) : m.IsValid := by
  rw [dateTime_eq] at h
  obtain ⟨⟨date, rest⟩, hdate, hrest⟩ := Option.bind_eq_some_iff.mp h
  obtain ⟨hday, hyear⟩ := isDate_of_date hdate
  dsimp only at hrest
  split at hrest
  · split_ifs at hrest
    unfold timeOn? at hrest
    obtain ⟨⟨hour, behind⟩, -, hbehind⟩ := Option.bind_eq_some_iff.mp hrest
    dsimp only at hbehind
    split at hbehind
    · obtain ⟨⟨minute, more⟩, -, hmore⟩ := Option.bind_eq_some_iff.mp hbehind
      obtain ⟨⟨⟨second, micro⟩, last⟩, hseconds, hlast⟩ := Option.bind_eq_some_iff.mp hmore
      obtain ⟨o, hoffset, hmoment⟩ := Option.bind_eq_some_iff.mp hlast
      dsimp only at hmoment
      split_ifs at hmoment with htime
      rw [Bool.and_eq_true, decide_eq_true_eq, decide_eq_true_eq] at htime
      obtain rfl := Option.some.inj hmoment
      obtain ⟨hsecond, hmicro⟩ := of_seconds hseconds
      exact ⟨hday, hyear, htime.1, htime.2, hsecond, hmicro, of_offset hoffset⟩
    · cases hbehind
  · cases hrest

theorem isValid_of_midnight {cs : List Char} {m : Moment} (h : midnight? cs = some m) : m.IsValid := by
  unfold midnight? at h
  split at h
  · rename_i hdate
    obtain ⟨hday, hyear⟩ := isDate_of_date hdate
    obtain rfl := Option.some.inj h
    exact ⟨hday, hyear, Nat.zero_lt_succ 23, Nat.zero_lt_succ 59, Nat.zero_lt_succ 59, Nat.zero_lt_succ 999999, nofun⟩
  · cases h

theorem isValid_ofMilliseconds {n : Int} {micro : Nat} {m : Moment} (h : ofMilliseconds? n micro = some m) :
    m.IsValid := isValid_ofSeconds h

theorem isValid_ofTimestamp {n : Int} {m : Moment} (h : ofTimestamp? n = some m) : m.IsValid := by
  unfold ofTimestamp? at h
  split_ifs at h
  · exact isValid_ofSeconds h
  · exact isValid_ofMilliseconds h

theorem isValid_ofReal {x : Float} {m : Moment} (h : ofReal? x = some m) : m.IsValid := by
  unfold ofReal? at h
  split_ifs at h
  · exact isValid_ofSeconds h
  · exact isValid_ofMilliseconds h

/-- What was read, if anything, is valid and has a year from 1 on. -/
def Sound (read : Except Failure Moment) : Prop := ∀ m, read = .ok m → m.Dated

theorem sound_inRange {m : Moment} (h : m.IsValid) : Sound (inRange m) := by
  intro n hn
  obtain ⟨rfl, hyear⟩ := inRange_eq_ok.mp hn
  exact ⟨h, hyear⟩

theorem sound_error (e : Failure) : Sound (.error e) := nofun

theorem Sound.ite {p : Prop} [Decidable p] {a b : Except Failure Moment} (ha : Sound a) (hb : Sound b) :
    Sound (if p then a else b) := by
  split_ifs
  · exact ha
  · exact hb

theorem sound_ofNumber {o : Option Moment} (h : ∀ m, o = some m → m.IsValid) : Sound (ofNumber o) := by
  cases o with
  | none => exact sound_error _
  | some m => exact sound_inRange (h m rfl)

theorem sound_ofWritten {o : Option Moment} (h : ∀ m, o = some m → m.IsValid) : Sound (ofWritten o) := by
  cases o with
  | none => exact sound_error _
  | some m => exact sound_inRange (h m rfl)

theorem sound_ofNumeral (cs : List Char) : Sound (ofNumeral cs) := by
  unfold ofNumeral
  dsimp only
  refine .ite (sound_error _) ?_
  split
  · exact .ite (sound_error _) (sound_ofWritten fun m => isValid_ofTimestamp)
  · split
    · exact sound_ofWritten fun m => isValid_ofReal
    · exact sound_error _
  · exact sound_error _

theorem sound_read (cs : List Char) : Sound (read cs) := by
  unfold read
  split
  · rename_i m hm
    exact sound_inRange (isValid_of_dateTime hm)
  · split
    · rename_i m hm
      exact sound_inRange (isValid_of_midnight hm)
    · exact sound_ofNumeral cs

/-! ## The characters of a text -/

/-- All characters are in ASCII. -/
def AllBasic (cs : List Char) : Prop := ∀ c ∈ cs, c.toNat < 128

namespace AllBasic

theorem nil : AllBasic [] := nofun

theorem append {cs ds : List Char} (hc : AllBasic cs) (hd : AllBasic ds) : AllBasic (cs ++ ds) :=
  List.forall_mem_append.mpr ⟨hc, hd⟩

theorem cons {c : Char} {cs : List Char} (hc : c.toNat < 128) (hcs : AllBasic cs) : AllBasic (c :: cs) :=
  List.forall_mem_cons.mpr ⟨hc, hcs⟩

theorem fixed (width n : Nat) : AllBasic (fixed width n) := by
  intro c hc
  have hcode := Char.isDigit_iff_toNat.mp (isDigit_of_mem_padded hc)
  have hlast : '9'.toNat < 128 := by decide
  omega

theorem fractionText (micro : Nat) : AllBasic (fractionText micro) := by
  unfold Moment.fractionText
  split_ifs
  · exact nil
  · exact cons (by decide) (fixed 6 micro)

theorem zoneText (o : Option Int) : AllBasic (zoneText o) := by
  cases o with
  | none => exact nil
  | some i =>
    refine cons ?_ (append (fixed 2 _) (cons (by decide) (fixed 2 _)))
    split_ifs <;> decide

theorem chars (m : Moment) : AllBasic m.chars := by
  have hdate : AllBasic (Moment.fixed 4 m.year ++ '-' :: Moment.fixed 2 m.month ++ '-' :: Moment.fixed 2 m.day) :=
    append (append (fixed 4 _) (cons (by decide) (fixed 2 _))) (cons (by decide) (fixed 2 _))
  have hseconds : AllBasic (':' :: Moment.fixed 2 m.second ++
      (Moment.fractionText m.micro ++ Moment.zoneText m.offset)) :=
    append (cons (by decide) (fixed 2 _)) (append (fractionText _) (zoneText _))
  rw [chars_eq]
  exact append hdate (cons (by decide) (append (fixed 2 _) (cons (by decide) (append (fixed 2 _) hseconds))))

end AllBasic

end SessionKeeper.Moment

import SessionKeeper.Text.East.Basic
import SessionKeeper.Text.East.China
import SessionKeeper.Text.East.Japan
import SessionKeeper.Text.East.Korea

/-!
# Sets that choose their charts by escape sequences

All octets lie below 128. An escape sequence puts a chart into one of three places; a shift decides
which place is in use.

* `Designated`, `Designated.char?` : the charts, and their characters.
* `Family.holds` : the charts that a family of sets knows.
* `sevenFront` : what stands in front of octets.
-/

namespace SessionKeeper.Text.East

/-- A chart by the last octet of its escape sequence, and whether its characters take two octets. -/
structure Designated where
  mark : UInt8
  double : Bool
deriving DecidableEq

namespace Designated

def plain : Designated := ⟨0x42, false⟩

/-- A character of the chart by its row and column. -/
def pairChar? (mark : UInt8) (r c : Nat) : Option (List Char) :=
  match Char.ofNat mark.toNat with
  | '@' | 'B' => japanese r c
  | 'D' => furtherJapanese r c
  | 'C' => korean r c
  | 'A' => chinese r c
  | 'O' => firstPlane .year2000 r c
  | 'Q' => firstPlane .year2004 r c
  | 'P' => secondPlane .year2004 r c
  | _ => none

/-- A character of a chart of one octet a character. -/
def singleChar? (mark : UInt8) (n : Nat) : Option Char :=
  match Char.ofNat mark.toNat with
  | 'J' => some (romanChar n)
  | 'I' => halfKana? (n + 0x80)
  | _ => none

/-- What stands in front of octets in this chart. -/
def front (d : Designated) : List UInt8 → Front
  | [] => .short
  | a :: rest =>
    if d = plain then plainFront a
    else if d.double then
      match rest with
      | [] => .short
      | b :: _ => match pairChar? d.mark (a.toNat - 0x20) (b.toNat - 0x20) with
        | some cs => .text cs 2
        | none => .bad 2
    else .ofChar? 1 ((singleChar? d.mark a.toNat).map fun c => [c])

end Designated

/-! ## Families -/

/-- The marks of the charts of two octets that a family knows, and of those of one octet. -/
def Family.marks : Family → String × String
  | .japanese => ("B@", "J")
  | .japaneseFirst => ("B@D", "J")
  | .japaneseSecond => ("B@DCA", "JAF")
  | .japaneseThird => ("BOP", "")
  | .japanese2004 => ("BQP", "")
  | .japaneseExtended => ("B@D", "JI")
  | .korean => ("C", "")

def Family.holds (f : Family) (d : Designated) : Bool :=
  d = .plain ||
    (if d.double then f.marks.1 else f.marks.2).toList.contains (Char.ofNat d.mark.toNat)

/-- Whether the octets for shifts keep their meaning. -/
def Family.shifts (f : Family) : Bool := f = .korean

/-- Whether the third place is used, for one character at a time. -/
def Family.hasThird (f : Family) : Bool := f = .japaneseSecond

/-- The charts in the three places, whether the second is in use, and whether an escape sequence of
another kind is passed on as it is. -/
structure Places where
  first : Designated
  second : Designated
  third : Designated
  shifted : Bool
  passing : Bool

def Places.initial : Places := ⟨.plain, .plain, .plain, false, false⟩

/-! ## Escape sequences -/

def endsEscape (b : UInt8) : Bool := (0x41 ≤ b && b ≤ 0x5A) || b = 0x40

/-- Whether the octet after an escape begins the choice of a chart. -/
def beginsChoice (b : UInt8) : Bool := [0x28, 0x29, 0x24, 0x2E, 0x26].contains b

/-- The greatest length of an escape sequence. -/
def maxEscape : Nat := 16

/-- The length of an escape sequence, if it ends in time; `i` octets have passed. A mark of revision
inside the sequence is passed over, except in Korean sets. -/
def escapeLength (revised : Bool) (fuel i : Nat) (bs : List UInt8) : Option (Option Nat) :=
  match fuel with
  | 0 => some none
  | fuel + 1 =>
    if maxEscape ≤ i then some none
    else match bs.drop i with
      | [] => none
      | b :: rest =>
        if endsEscape b then some (some (i + 1))
        else if revised && b = 0x26 && rest.head? = some 0x40 then
          escapeLength revised fuel (i + 3) bs
        else escapeLength revised fuel (i + 1) bs

/-- A choice of a chart: the number of its place and the chart. -/
def choice? (f : Family) (sequence : List UInt8) : Option (Nat × Designated) :=
  match sequence with
  | [_, 0x24, m] => some (0, ⟨m, true⟩)
  | [_, 0x28, m] => some (0, ⟨m, false⟩)
  | [_, 0x29, m] => some (1, ⟨m, false⟩)
  | [_, 0x2E, m] => if f.hasThird then some (2, ⟨m, false⟩) else none
  | [_, 0x24, 0x28, m] => some (0, ⟨m, true⟩)
  | [_, 0x24, 0x29, m] => some (1, ⟨m, true⟩)
  | [_, _, _, 0x1B, 0x24, 0x42] => if f = .korean then none else some (0, ⟨0x42, true⟩)
  | _ => none

def Places.put (s : Places) (place : Nat) (d : Designated) : Places :=
  if place = 0 then { s with first := d }
  else if place = 1 then { s with second := d }
  else { s with third := d }

def escapeFront (f : Family) (s : Places) (bs : List UInt8) : Front × Places :=
  match escapeLength (f ≠ .korean) maxEscape 1 bs with
  | none => (.short, s)
  | some none => (.bad 1, s)
  | some (some n) =>
    match choice? f (bs.take n) with
    | some (place, d) => if f.holds d then (.text [] n, s.put place d) else (.bad n, s)
    | none => (.bad n, s)

/-- The Greek characters of one octet, from U+00A0 on. -/
def greekUpper : String :=
  "\xa0‘’£��¦§¨©�«¬\xad�―°±²³΄΅Ά·ΈΉΊ»Ό½ΎΏΐΑΒΓΔΕΖΗΘΙ" ++
    "ΚΛΜΝΞΟΠΡ�ΣΤΥΦΧΨΩΪΫάέήίΰαβγδεζηθικλμνξοπρςστυφχψωϊϋόύώ�"

/-- The Greek character of an octet; controls and plain characters stand for themselves. -/
def greekChar? (n : Nat) : Option Char :=
  if 0xA0 ≤ n then rowChar? greekUpper (n - 0xA0) else some (Char.ofNat n)

/-- The character of an octet in the third place. The octets of the upper half are moved down. -/
def thirdChar? (d : Designated) (n : Nat) : Option Char :=
  if d.mark = 0x46 then greekChar? (if n < 128 then n + 128 else n - 128)
  else if 128 ≤ n then none
  else some (Char.ofNat (if d = .plain then n else n + 128))

def thirdFront (s : Places) (b : UInt8) : Front :=
  match thirdChar? s.third b.toNat with
  | some c => .text [c] 3
  | none => .bad 3

/-! ## Octets -/

/-- What an escape octet does: it chooses a chart, takes one character of the third place, or begins a
sequence that is passed on. -/
def escapedFront (f : Family) (s : Places) (bs : List UInt8) : Front × Places :=
  match bs with
  | _ :: b :: rest =>
    if beginsChoice b then escapeFront f s bs
    else if f.hasThird && b = 0x4E then
      match rest with
      | c :: _ => (thirdFront s c, s)
      | [] => (.short, s)
    else (.text ['\x1b'] 1, { s with passing := true })
  | _ => (.short, s)

def sevenFront (f : Family) (s : Places) (bs : List UInt8) : Front × Places :=
  match bs with
  | [] => (.short, s)
  | a :: _ =>
    if s.passing then
      (.text [Char.ofNat a.toNat] 1, { s with passing := !endsEscape a })
    else if a = 0x1B then escapedFront f s bs
    else if f.shifts && a = 0x0F then (.text [] 1, { s with shifted := false })
    else if f.shifts && a = 0x0E then (.text [] 1, { s with shifted := true })
    else if a = 0x0A then (plainFront a, { s with shifted := false })
    else if a < 0x20 then (plainFront a, s)
    else if !isPlain a then (.bad 1, s)
    else ((if s.shifted then s.second else s.first).front bs, s)

end SessionKeeper.Text.East

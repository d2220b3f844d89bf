import SessionKeeper.Text.East.Chart
import SessionKeeper.Text.East.Jis208
import SessionKeeper.Text.East.Jis212
import SessionKeeper.Text.East.Jis213
import SessionKeeper.Text.East.Windows31

/-!
# Japanese sets

* `japanese`, `furtherJapanese` : the two older charts.
* `Edition`, `firstPlane`, `secondPlane` : the extended chart in its two editions.
* `shiftJisFront`, `windows31Front`, `shiftJis213Front` : the sets whose pairs begin below 0xA0.
* `eucJpFront`, `eucJis213Front` : the sets whose pairs lie from 0xA1 on.
-/

namespace SessionKeeper.Text.East

/-! ## Charts -/

def japanese : Chart := .ofRows jis208Rows

def furtherJapanese : Chart := .ofRows jis212Rows

/-- The two editions of the extended chart. -/
inductive Edition where
  | year2000
  | year2004
deriving DecidableEq

/-- The places of the first plane that only the later edition holds. -/
def laterPlaces : List (Nat × Nat) := [
  (14, 1), (15, 94), (47, 52), (47, 94), (84, 7), (94, 90), (94, 91), (94, 92), (94, 93), (94, 94)]

/-- Whether the edition has no character at the place yet. -/
def isLater (e : Edition) (r c : Nat) : Bool := e = .year2000 && laterPlaces.contains (r, c)

def firstPlane (e : Edition) : Chart := fun r c =>
  if isLater e r c then none
  else
    match jis213Pairs.lookup (r, c) with
    | some s => some s.toList
    | none => (japanese r c).or (Chart.ofRows jis213FirstRows r c)

/-- What a pair of the first plane is; one that only the later edition holds is no text as a whole. -/
def firstPlaneFront (e : Edition) (r c : Nat) : Front :=
  if isLater e r c then .bad 2 else .ofChar? 2 (firstPlane e r c)

def secondPlane (e : Edition) : Chart := fun r c =>
  if e = .year2000 && (r, c) = (93, 27) then some ['\u9b1d'] else Chart.ofRows jis213SecondRows r c

/-! ## Half-width characters -/

def halfKana? (b : Nat) : Option Char :=
  if 0xA1 ≤ b && b ≤ 0xDF then some (Char.ofNat (0xFEC0 + b)) else none

/-- The Japanese plain characters: a yen sign and an overline in two places. -/
def romanChar (b : Nat) : Char :=
  if b = 0x5C then '¥' else if b = 0x7E then '‾' else Char.ofNat b

/-! ## Pairs that begin below 0xA0 -/

/-- Whether the octet may begin a pair. -/
def leads (a : Nat) : Bool := (0x81 ≤ a && a ≤ 0x9F) || (0xE0 ≤ a && a ≤ 0xFC)

/-- Row and column of a pair: each first octet stands for two rows. -/
def shifted? (a b : Nat) : Option (Nat × Nat) :=
  if !leads a || b < 0x40 || b = 0x7F || 0xFC < b then none
  else
    let row := 2 * (if a < 0xE0 then a - 0x81 else a - 0xC1)
    let column := if b < 0x80 then b - 0x40 else b - 0x41
    some (row + (if column < 94 then 0 else 1) + 1, column % 94 + 1)

/-- What stands in front of octets with characters of one octet and pairs. -/
def mixedFront (one? : Nat → Option Char) (two : Nat → Nat → Front) (bs : List UInt8) : Front :=
  match bs with
  | [] => .short
  | a :: rest =>
    match one? a.toNat, rest with
    | some c, _ => .text [c] 1
    | none, b :: _ => if leads a.toNat then two a.toNat b.toNat else .bad 1
    | none, [] => if leads a.toNat then .short else .bad 1

/-- What stands in front of octets of the plain set. -/
def shiftJisFront : List UInt8 → Front :=
  mixedFront (fun a => if a < 0x80 then some (Char.ofNat a) else halfKana? a) fun a b =>
    .ofChar? 2 ((shifted? a b).bind fun (r, c) => japanese r c)

/-- A character of one octet of the extended set, among them some private ones. -/
def windows31Single? (a : Nat) : Option Char :=
  if a ≤ 0x80 then some (Char.ofNat a)
  else if a = 0xA0 then some '\uf8f0'
  else if 0xFD ≤ a then some (Char.ofNat (0xF8F1 + (a - 0xFD)))
  else halfKana? a

/-- A character in a pair of octets of the extended set: its own, one of the chart, or a private one. -/
def windows31Char? (a b : Nat) : Option (List Char) := do
  let (r, c) ← shifted? a b
  match (windows31Changes.lookup (r, c)).or ((windows31Rows.lookup r).bind (rowChar? · (c - 1))) with
  | some ch => some [ch]
  | none =>
    if 0xF0 ≤ a && a ≤ 0xF9 then some [Char.ofNat (0xE000 + (r - 95) * 94 + (c - 1))] else japanese r c

/-- What stands in front of octets of the extended set. -/
def windows31Front (bs : List UInt8) : Front :=
  match bs with
  | [a] => match windows31Single? a.toNat with
    | some c => .text [c] 1
    | none => .short
  | a :: b :: _ => match windows31Single? a.toNat with
    | some c => .text [c] 1
    | none => .ofChar? 2 (windows31Char? a.toNat b.toNat)
  | [] => .short

/-- The row of the second plane for a row beyond the first one. -/
def secondRow (r : Nat) : Nat :=
  let n := r - 95
  if 9 ≤ n then n + 69 else if 5 ≤ n || n = 1 then n + 7 else n + 1

/-- What stands in front of octets of the set with the extended chart. -/
def shiftJis213Front (e : Edition) : List UInt8 → Front :=
  mixedFront (fun a => if a < 0x80 then some (romanChar a) else halfKana? a) fun a b =>
    match shifted? a b with
    | none => .bad 1
    | some (r, c) =>
      if 94 < r then .ofChar? 2 (secondPlane e (secondRow r) c)
      else if (r, c) = (1, 32) then .text ['\\'] 2
      else firstPlaneFront e r c

/-! ## Pairs from 0xA1 on -/

/-- What stands in front of octets with pairs and triples; a pair that begins with 0x8E is a half-width
syllable, and a triple begins with 0x8F. -/
def eucFront (two : Nat → Nat → Front) (three? : Nat → Nat → Option (List Char)) :
    List UInt8 → Front
  | [] => .short
  | a :: rest =>
    if isPlain a then plainFront a
    else match rest with
      | [] => .short
      | b :: more =>
        if a = 0x8E then .ofChar? 2 ((halfKana? b.toNat).map fun c => [c])
        else if a = 0x8F then
          match more with
          | c :: _ => .ofChar? 3 (three? (b.toNat - 0xA0) (c.toNat - 0xA0))
          | [] => .short
        else two (a.toNat - 0xA0) (b.toNat - 0xA0)

/-- What stands in front of octets of the plain set. -/
def eucJpFront : List UInt8 → Front :=
  eucFront (fun r c => .ofChar? 2 (japanese r c)) furtherJapanese

/-- What stands in front of octets of the set with the extended chart; triples hold the second chart
too. -/
def eucJis213Front (e : Edition) : List UInt8 → Front :=
  eucFront
    (fun r c => if (r, c) = (2, 18) then .text ['\uff5e'] 2 else firstPlaneFront e r c)
    fun r c => (secondPlane e r c).or (furtherJapanese r c)

end SessionKeeper.Text.East

import SessionKeeper.Decimal.Read

/-!
# Labels in basic characters

A label with characters beyond the basic ones is written as its basic characters, a hyphen, and a row
of numbers that say which characters are missing, and where.

* `Punycode.encode` : a label in basic characters.
* `Punycode.decode?` : the label that they stand for.
* `Punycode.decodeLossy?` : as much of a label as octets write.
-/

namespace SessionKeeper.Text.Punycode

def base : Nat := 36

def digit (n : Nat) : Char := if n < 26 then Char.ofNat (97 + n) else Char.ofNat (22 + n)

def digitValue? (c : Char) : Option Nat :=
  if 'a' ≤ c && c ≤ 'z' then some (c.toNat - 97)
  else if 'A' ≤ c && c ≤ 'Z' then some (c.toNat - 65)
  else if Decimal.isDigit c then some (c.toNat - 22)
  else none

/-- The threshold of a position: a digit below it is the last of its number. -/
def threshold (k bias : Nat) : Nat := if k ≤ bias then 1 else min 26 (k - bias)

/-- A number in digits of growing weight; `fuel` bounds their count. -/
def number (bias : Nat) : Nat → Nat → Nat → List Char
  | 0, _, q => [digit (q % base)]
  | fuel + 1, k, q =>
    let t := threshold k bias
    if q < t then [digit q]
    else digit (t + (q - t) % (base - t)) :: number bias fuel (k + base) ((q - t) / (base - t))

/-- A number in front of a text, and what follows it. -/
def number? (bias : Nat) : Nat → Nat → List Char → Option (Nat × List Char)
  | _, _, [] => none
  | k, weight, c :: rest => do
    let d ← digitValue? c
    let t := threshold k bias
    if d < t then some (d * weight, rest)
    else
      let (n, rest) ← number? bias (k + base) (weight * (base - t)) rest
      some (d * weight + n, rest)

/-- Divides by 35 until the number is small, and counts. -/
def scale : Nat → Nat → Nat → Nat × Nat
  | 0, delta, k => (delta, k)
  | fuel + 1, delta, k => if 455 < delta then scale fuel (delta / 35) (k + base) else (delta, k)

/-- The bias after a number: `count` characters of the label are known by then. -/
def nextBias (delta count : Nat) (first : Bool) : Nat :=
  let delta := if first then delta / 700 else delta / 2
  let (delta, k) := scale delta.log2 (delta + delta / count) 0
  k + base * delta / (delta + 38)

def firstBias : Nat := 72

/-! ## Writing -/

/-- What is known while a label is written. -/
structure Draft where
  delta : Nat
  bias : Nat
  handled : Nat
  first : Bool
  out : List Char

/-- One character of the label while the code point `n` is inserted. -/
def Draft.visit (n : Nat) (p : Draft) (c : Nat) : Draft :=
  if c < n then { p with delta := p.delta + 1 }
  else if c = n then
    { delta := 0
      bias := nextBias p.delta (p.handled + 1) p.first
      handled := p.handled + 1
      first := false
      out := p.out ++ number p.bias 40 base p.delta }
  else p

/-- Inserts the code points from the least to the greatest; `codes` is that order. -/
def insertAll (label : List Nat) : List Nat → Nat → Draft → List Char
  | [], _, p => p.out
  | m :: rest, n, p =>
    let p := { p with delta := p.delta + (m - n) * (p.handled + 1) }
    let p := label.foldl (Draft.visit m) p
    insertAll label rest (m + 1) { p with delta := p.delta + 1 }

/-- Whether the code point is a basic character. -/
def isBasic (n : Nat) : Bool := n < 128

/-- The distinct code points beyond the basic ones, ascending. -/
def beyondBasic (label : List Nat) : List Nat :=
  ((label.filter fun n => !isBasic n).mergeSort (· ≤ ·)).eraseReps

def encode (label : List Nat) : List Char :=
  let basic := (label.filter isBasic).map Char.ofNat
  let start := if basic.isEmpty then [] else basic ++ ['-']
  start ++ insertAll label (beyondBasic label) 128 ⟨0, firstBias, basic.length, true, []⟩

/-! ## Reading -/

def greatest : Nat := 0x10FFFF

/-- What becomes of numbers that are not well formed: the label so far may do, and a code point beyond
the greatest may have another one in its place. -/
structure Mending where
  broken : List Nat → Option (List Nat)
  beyond : Nat → Option Nat

def Mending.strict : Mending := ⟨fun _ => none, fun n => if greatest < n then none else some n⟩

/-- The label so far does, and a question mark is put in the place of a code point that is none. -/
def Mending.lossy : Mending := ⟨some, fun n => some (if greatest < n then '?'.toNat else n)⟩

/-- Inserts characters into a label by the numbers of a text. The position counts over all places of
the label, and passes to the next code point after the last; `code` and `place` are where the last
character went. -/
def decodeFrom (m : Mending) (fuel : Nat) (label : List Nat) (code place bias : Nat) (first : Bool)
    (cs : List Char) : Option (List Nat) :=
  match fuel, cs with
  | _, [] => some label
  | 0, _ => none
  | fuel + 1, cs =>
    match number? bias base 1 cs with
    | none => m.broken label
    | some (delta, rest) => do
      let size := label.length + 1
      let code ← m.beyond (code + (place + delta) / size)
      let place := (place + delta) % size
      decodeFrom m fuel (label.take place ++ code :: label.drop place) code (place + 1)
        (nextBias delta size first) false rest

/-- The part of a text before its last hyphen, and the part after it; without a hyphen all of it is the
latter. -/
def cut {α : Type} (isHyphen : α → Bool) (xs : List α) : List α × List α :=
  let numbers := (xs.reverse.takeWhile fun x => !isHyphen x).reverse
  ((xs.take (xs.length - numbers.length)).dropLast, numbers)

/-- The label that basic characters stand for: those before the last hyphen are part of it. -/
def decode? (cs : List Char) : Option (List Nat) :=
  let (basic, numbers) := cut (· = '-') cs
  decodeFrom .strict numbers.length (basic.map Char.toNat) 128 0 firstBias true numbers

/-- As much of a label as octets write; the numbers must be basic characters. -/
def decodeLossy? (bs : List UInt8) : Option (List Nat) :=
  let (basic, numbers) := cut (· = 0x2D) bs
  if numbers.all (· < 128) then
    decodeFrom .lossy numbers.length (basic.map fun b => if b < 128 then b.toNat else 0xFFFD) 128 0
      firstBias true (numbers.map fun b => Char.ofNat b.toNat)
  else none

end SessionKeeper.Text.Punycode

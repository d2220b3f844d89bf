import SessionKeeper.Text.Surrogate

/-!
# Characters as octets

* `encodeUtf8` : the octets of a text.
* `Utf8.scan` : octets to characters; each longest stretch that cannot begin a character is one gap.
* `decodeUtf8?`, `decodeUtf8Lossy` : the text if there is no gap, and the text with a replacement
  character in each gap.
-/

namespace SessionKeeper.Text

/-- The character that stands in a gap. -/
def replacement : Char := '\uFFFD'

/-- The octets of one character. -/
def encodeChar (c : Char) : List UInt8 :=
  let n := c.toNat
  if n < 0x80 then [n.toUInt8]
  else if n < 0x800 then [(0xC0 + n / 64).toUInt8, (0x80 + n % 64).toUInt8]
  else if n < 0x10000 then
    [(0xE0 + n / 4096).toUInt8, (0x80 + n / 64 % 64).toUInt8, (0x80 + n % 64).toUInt8]
  else
    [(0xF0 + n / 262144).toUInt8, (0x80 + n / 4096 % 64).toUInt8, (0x80 + n / 64 % 64).toUInt8,
      (0x80 + n % 64).toUInt8]

def encodeUtf8 (cs : List Char) : List UInt8 := cs.flatMap encodeChar

namespace Utf8

/-- Where the scan stands: between characters, or with octets owed, the first of which lies between
two bounds. -/
inductive State where
  | start
  | owed (count low high value : Nat)

/-- The first octet of a character, or a gap. Halves of surrogate pairs count as characters if
`halves`. -/
def first (halves : Bool) (b : Nat) : List (Option Char) × State :=
  if b < 0x80 then ([some (Char.ofNat b)], .start)
  else if 0xC2 ≤ b && b ≤ 0xDF then ([], .owed 1 0x80 0xBF (b - 0xC0))
  else if b = 0xE0 then ([], .owed 2 0xA0 0xBF 0)
  else if b = 0xED then ([], .owed 2 0x80 (if halves then 0xBF else 0x9F) 0xD)
  else if 0xE1 ≤ b && b ≤ 0xEF then ([], .owed 2 0x80 0xBF (b - 0xE0))
  else if b = 0xF0 then ([], .owed 3 0x90 0xBF 0)
  else if 0xF1 ≤ b && b ≤ 0xF3 then ([], .owed 3 0x80 0xBF (b - 0xF0))
  else if b = 0xF4 then ([], .owed 3 0x80 0x8F 4)
  else ([none], .start)

/-- One octet: the characters and gaps it completes and the new state. An octet that does not go on
with the character begins anew after a gap. -/
def step (halves : Bool) (b : Nat) : State → List (Option Char) × State
  | .start => first halves b
  | .owed count low high value =>
    if low ≤ b && b ≤ high then
      let v := value * 64 + (b - 0x80)
      if count ≤ 1 then ([some (ofCode v)], .start) else ([], .owed (count - 1) 0x80 0xBF v)
    else
      let (out, next) := first halves b
      (none :: out, next)

/-- Octets to characters, a gap as nothing; octets still owed at the end are a gap. -/
def scan (halves : Bool) : State → List UInt8 → List (Option Char)
  | .start, [] => []
  | .owed .., [] => [none]
  | s, b :: rest =>
    let (out, next) := step halves b.toNat s
    out ++ scan halves next rest

end Utf8

/-- The text of the octets, if they are the octets of a text. -/
def decodeUtf8? (halves : Bool) (bs : List UInt8) : Option (List Char) :=
  (Utf8.scan halves .start bs).mapM id

/-- The text of the octets, with a replacement character in each gap. -/
def decodeUtf8Lossy (bs : List UInt8) : List Char :=
  (Utf8.scan false .start bs).map (·.getD replacement)

end SessionKeeper.Text

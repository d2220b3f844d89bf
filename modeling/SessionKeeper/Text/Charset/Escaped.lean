import SessionKeeper.Text.Utf8

/-!
# Text with escapes

* `Escaped.decode` : octets to text; a backslash begins an escape, and all octets beyond the escapes are the
  code points of their characters. Raw text has escapes of four and eight hexadecimal digits only.
-/

namespace SessionKeeper.Text.Escaped

def hexValue? (b : UInt8) : Option Nat :=
  let n := b.toNat
  if 48 ≤ n && n ≤ 57 then some (n - 48)
  else if 97 ≤ n && n ≤ 102 then some (n - 87)
  else if 65 ≤ n && n ≤ 70 then some (n - 55)
  else none

/-- Where the reader stands: between escapes, after a backslash, in the digits of an escape, or in the
name of a character. -/
inductive State where
  | start
  | escape
  | hex (left value : Nat)
  | octal (left value : Nat)
  | name (opened : Bool) (size : Nat)

/-- A character of a code point; there is none beyond the last. -/
def char? (n : Nat) : Option Char := if 0x10FFFF < n then none else some (ofCode n)

def startStep (b : UInt8) : List (Option Char) × State :=
  if b = 0x5C then ([], .escape) else ([some (Char.ofNat b.toNat)], .start)

def short? (c : Char) : Option Char :=
  match c with
  | '\\' => some '\\'
  | '\'' => some '\''
  | '"' => some '"'
  | 'b' => some '\x08'
  | 'f' => some '\x0c'
  | 't' => some '\t'
  | 'n' => some '\n'
  | 'r' => some '\r'
  | 'v' => some '\x0b'
  | 'a' => some '\x07'
  | _ => none

/-- The number of digits after the letter of a numeric escape. -/
def digits? (c : Char) : Option Nat :=
  match c with
  | 'x' => some 2
  | 'u' => some 4
  | 'U' => some 8
  | _ => none

/-- The octet after a backslash; a backslash before a line break joins two lines, and before a
character that begins no escape it stands for itself. -/
def escapeStep (b : UInt8) : List (Option Char) × State :=
  let c := Char.ofNat b.toNat
  match digits? c, short? c with
  | some left, _ => ([], .hex left 0)
  | none, some e => ([some e], .start)
  | none, none =>
    if c = '\n' then ([], .start)
    else if c = 'N' then ([], .name false 0)
    else if '0' ≤ c && c ≤ '7' then ([], .octal 2 (b.toNat - 48))
    else ([some '\\', some c], .start)

/-- The octet after the backslash of a text with numeric escapes only. -/
def rawEscapeStep (b : UInt8) : List (Option Char) × State :=
  let c := Char.ofNat b.toNat
  if c = 'u' then ([], .hex 4 0)
  else if c = 'U' then ([], .hex 8 0)
  else ([some '\\', some c], .start)

/-- An octet in a numeric escape; one that is no digit begins anew after a gap. -/
def hexStep (left value : Nat) (b : UInt8) : List (Option Char) × State :=
  match hexValue? b with
  | some d =>
    if left ≤ 1 then ([char? (value * 16 + d)], .start) else ([], .hex (left - 1) (value * 16 + d))
  | none =>
    let (out, next) := startStep b
    (none :: out, next)

/-- An octet in an escape of up to three octal digits. -/
def octalStep (left value : Nat) (b : UInt8) : List (Option Char) × State :=
  if 48 ≤ b && b ≤ 55 then
    let value := value * 8 + (b.toNat - 48)
    if left ≤ 1 then ([char? value], .start) else ([], .octal (left - 1) value)
  else
    let (out, next) := startStep b
    (char? value :: out, next)

/-- An octet in the name of a character in braces. No character is known by name; an octet that cannot
stand there begins anew after a gap. -/
def nameStep (opened : Bool) (size : Nat) (b : UInt8) : List (Option Char) × State :=
  if !opened && b = 0x7B then ([], .name true 0)
  else if opened && b ≠ 0x7D then ([], .name true (size + 1))
  else if opened && 0 < size then ([none], .start)
  else
    let (out, next) := startStep b
    (none :: out, next)

def step (raw : Bool) (b : UInt8) : State → List (Option Char) × State
  | .start => startStep b
  | .escape => if raw then rawEscapeStep b else escapeStep b
  | .hex left value => hexStep left value b
  | .octal left value => octalStep left value b
  | .name opened size => nameStep opened size b

/-- What is left at the end: an escape that is not complete is a gap. -/
def finish (raw : Bool) : State → List (Option Char)
  | .start => []
  | .escape => if raw then [some '\\'] else [none]
  | .octal _ value => [char? value]
  | _ => [none]

/-- Octets to characters, a gap as nothing. -/
def scan (raw : Bool) : State → List UInt8 → List (Option Char)
  | s, [] => finish raw s
  | s, b :: rest =>
    let (out, next) := step raw b s
    out ++ scan raw next rest

/-- The text of the octets, with a replacement character in each gap; `raw` leaves all escapes but those
of four and eight digits as they are. -/
def decode (raw : Bool) (bs : List UInt8) : List Char :=
  (scan raw .start bs).map (·.getD replacement)

end SessionKeeper.Text.Escaped

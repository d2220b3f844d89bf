import SessionKeeper.Decimal.Read
import SessionKeeper.Text.Utf8

/-!
# Percent escapes

* `escapeByte`, `escapeChar` : octets as a percent sign and two hexadecimal digits.
* `escape` : a part of an address with the characters of its safe set as they are and escapes that
  are already there kept.
* `formText` : a text of a form; a space is a plus sign.
* `unescape` : the octets that an escaped text stands for.
-/

namespace SessionKeeper.Url

open Text

def hexDigit (n : Nat) : Char := if n < 10 then Char.ofNat (48 + n) else Char.ofNat (55 + n)

def escapeByte (b : UInt8) : List Char := ['%', hexDigit (b.toNat / 16), hexDigit (b.toNat % 16)]

def escapeChar (c : Char) : List Char := (encodeChar c).flatMap escapeByte

/-- Whether the character is a hexadecimal digit. -/
def isHex (c : Char) : Bool :=
  Decimal.isDigit c || ('a' ≤ c && c ≤ 'f') || ('A' ≤ c && c ≤ 'F')

/-- Letters, digits, hyphen, point, underscore and tilde. -/
def isUnreserved (c : Char) : Bool := c.isAlphanum || c = '-' || c = '.' || c = '_' || c = '~'

/-- A part of an address with everything escaped but the safe characters and escapes. -/
def escape (safe : Char → Bool) : List Char → List Char
  | [] => []
  | '%' :: a :: b :: rest =>
    if isHex a && isHex b then '%' :: a :: b :: escape safe rest
    else (if safe '%' then ['%'] else escapeChar '%') ++ escape safe (a :: b :: rest)
  | c :: rest => (if isUnreserved c || safe c then [c] else escapeChar c) ++ escape safe rest

def formChar (c : Char) : List Char :=
  if c = ' ' then ['+'] else if isUnreserved c then [c] else escapeChar c

def formText (cs : List Char) : List Char := cs.flatMap formChar

def hexDigitValue (c : Char) : Nat :=
  if Decimal.isDigit c then c.toNat - 48 else c.toLower.toNat - 87

/-- The octets that an escaped text stands for. -/
def unescape : List Char → List UInt8
  | [] => []
  | '%' :: a :: b :: rest =>
    if isHex a && isHex b then (hexDigitValue a * 16 + hexDigitValue b).toUInt8 :: unescape rest
    else encodeChar '%' ++ unescape (a :: b :: rest)
  | c :: rest => encodeChar c ++ unescape rest

/-! ## Safe sets -/

/-- The visible characters of the basic set, without those in a list. -/
def visibleBut (excluded : List Char) (c : Char) : Bool :=
  32 < c.toNat && c.toNat < 127 && !excluded.contains c

/-- What a query may hold as it is. -/
def inQuery : Char → Bool := visibleBut ['"', '#', '<', '>']

/-- What a path may hold as it is. -/
def inPath : Char → Bool := visibleBut ['"', '#', '<', '>', '?', Char.ofNat 96, '\x7b', '\x7d']

/-- What a fragment may hold as it is. -/
def inFragment : Char → Bool := visibleBut ['"', '<', '>', Char.ofNat 96]

/-- What a path may hold, but not the part in front of the host. -/
def outsideUser : List Char := ['/', ';', '=', '@', '[', '\\', ']', '^', '|']

/-- What the part in front of the host may hold as it is. -/
def inUser (c : Char) : Bool := inPath c && !outsideUser.contains c

/-- What the name of a host may hold as it is. -/
def inHost (c : Char) : Bool :=
  ['!', '$', '&', '\'', '(', ')', '*', '+', ',', ';', '=', '"', Char.ofNat 96, '\x7b', '\x7d', '%', '|',
    '\\'].contains c

end SessionKeeper.Url

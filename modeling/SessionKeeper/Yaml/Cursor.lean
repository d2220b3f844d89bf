/-!
# A place in a document

* `Cursor` : the text that is left, and where it begins.
* `Cursor.next`, `Cursor.peek` : the characters ahead; beyond the end stands `nul`.
* `Cursor.skip`, `Cursor.takeWhile`, `Cursor.lineBreak` : steps forward.
-/

namespace SessionKeeper.Yaml

/-- The character that stands beyond the end. -/
def nul : Char := '\x00'

/-- Whether the character ends a line. -/
def isBreak (c : Char) : Bool := c = '\n' || c = '\u0085' || c = '\u2028' || c = '\u2029'

/-- Whether the character ends a line or stands beyond the end. -/
def isLineEnd (c : Char) : Bool := c = nul || isBreak c

/-- Whether the character is a space or the end of a line. -/
def isSpaceOrEnd (c : Char) : Bool := c = ' ' || isLineEnd c

/-- Whether the character is a space, a tab or the end of a line. -/
def isGap (c : Char) : Bool := c = '\t' || isSpaceOrEnd c

/-- Whether the character may stand in a name: a letter, a digit, a hyphen or an underscore. -/
def isNameChar (c : Char) : Bool := c.isAlphanum || c = '-' || c = '_'

def isHexDigit (c : Char) : Bool :=
  c.isDigit || ('a' ≤ c && c ≤ 'f') || ('A' ≤ c && c ≤ 'F')

/-- The text that is left, the number of characters before it, and its line and column. -/
structure Cursor where
  rest : List Char
  index : Nat
  line : Nat
  column : Nat

namespace Cursor

/-- The beginning of a text. -/
def start (cs : List Char) : Cursor := ⟨cs, 0, 0, 0⟩

def next (c : Cursor) : Char := c.rest.headD nul

/-- The character some places ahead. -/
def peek (c : Cursor) (n : Nat) : Char := (c.rest.drop n).headD nul

/-- The place after the next character. A byte order mark takes no column. -/
def step (c : Cursor) : Cursor :=
  match c.rest with
  | [] => c
  | ch :: rest =>
    if isBreak ch then ⟨rest, c.index + 1, c.line + 1, 0⟩
    else ⟨rest, c.index + 1, c.line, if ch = '\uFEFF' then c.column else c.column + 1⟩

/-- The place some characters ahead. -/
def skip (c : Cursor) : Nat → Cursor
  | 0 => c
  | n + 1 => c.step.skip n

/-- The next characters of a class, and the place after them. -/
def takeWhile (c : Cursor) (p : Char → Bool) : List Char × Cursor :=
  let taken := c.rest.takeWhile p
  (taken, c.skip taken.length)

/-- The place after the next characters of a class. -/
def skipWhile (c : Cursor) (p : Char → Bool) : Cursor := (c.takeWhile p).2

def skipSpaces (c : Cursor) : Cursor := c.skipWhile (· = ' ')

def skipLine (c : Cursor) : Cursor := c.skipWhile fun ch => !isBreak ch

/-- The break of a line ahead, if there is one, as it stands in text, and the place after it. -/
def lineBreak (c : Cursor) : List Char × Cursor :=
  if c.next = '\n' || c.next = '\u0085' then (['\n'], c.step)
  else if c.next = '\u2028' || c.next = '\u2029' then ([c.next], c.step)
  else ([], c)

/-- Whether three of the character stand ahead, with a gap after them. -/
def isMarker (c : Cursor) (ch : Char) : Bool :=
  c.next = ch && c.peek 1 = ch && c.peek 2 = ch && isGap (c.peek 3)

/-- Whether a line that separates documents begins here. -/
def isSeparator (c : Cursor) : Bool := c.isMarker '-' || c.isMarker '.'

end Cursor

end SessionKeeper.Yaml

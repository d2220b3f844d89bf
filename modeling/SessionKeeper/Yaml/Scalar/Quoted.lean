import SessionKeeper.Fault
import SessionKeeper.Yaml.Cursor

/-!
# Quoted scalars

* `Quoted.escape` : what an escape stands for.
* `Quoted.gap` : spaces and breaks of lines between words.
* `Quoted.read` : a scalar between single or double quotes.
-/

namespace SessionKeeper.Yaml.Quoted

/-- The characters that single letters stand for after a backslash. -/
def escapes : List (Char × Char) := [
  ('0', '\x00'), ('a', '\x07'), ('b', '\x08'), ('t', '\x09'), ('\t', '\x09'), ('n', '\x0a'),
  ('v', '\x0b'), ('f', '\x0c'), ('r', '\x0d'), ('e', '\x1b'), (' ', ' '), ('"', '"'), ('\\', '\\'),
  ('/', '/'), ('N', '\u0085'), ('_', '\u00a0'), ('L', '\u2028'), ('P', '\u2029')]

/-- How many digits follow the letters that name a character by its number. -/
def codeLengths : List (Char × Nat) := [('x', 2), ('u', 4), ('U', 8)]

def ofHexDigits (ds : List Char) : Nat :=
  ds.foldl (fun n c => n * 16 + (if c.isDigit then c.toNat - 48 else c.toNat % 32 + 9)) 0

/-- The wording for a number that names no character. -/
def rangeMessage : String := "chr() arg not in range(0x110000)"

/-- The character of a number. -/
def charOf (n : Nat) : Except Fault Char :=
  if n < 0x110000 then .ok (Text.ofCode n)
  else if n < 0x80000000 then .error (.badValue rangeMessage none)
  else .error .tooLarge

/-- The breaks of lines ahead, with the spaces around them left out. -/
def breaks : Nat → List Char → Cursor → Except Fault (List Char × Cursor)
  | 0, acc, c => .ok (acc, c)
  | n + 1, acc, c =>
    if c.isSeparator then .error .badDocument
    else
      let c := c.skipWhile fun ch => ch = ' ' || ch = '\t'
      if isBreak c.next then
        let (b, c) := c.lineBreak
        breaks n (acc ++ b) c
      else .ok (acc, c)

/-- What the escape ahead stands for; the backslash is passed already. An escaped break of a line is
left out. -/
def escape (c : Cursor) : Except Fault (List Char × Cursor) :=
  match escapes.find? (·.1 = c.next), codeLengths.find? (·.1 = c.next) with
  | some (_, ch), _ => .ok ([ch], c.step)
  | none, some (_, n) => do
    let c := c.step
    let digits := c.rest.take n
    if digits.length < n || !digits.all isHexDigit then .error .badDocument
    let ch ← charOf (ofHexDigits digits)
    return ([ch], c.skip n)
  | none, none => do
    if isBreak c.next then
      let c := c.lineBreak.2
      breaks (c.rest.length + 1) [] c
    else .error .badDocument

/-- Whether the character interrupts a word. -/
def isStop (c : Char) : Bool := c = '\'' || c = '"' || c = '\\' || isGap c

/-- The characters up to a gap or the closing quote. -/
def word (double : Bool) : Nat → List Char → Cursor → Except Fault (List Char × Cursor)
  | 0, acc, c => .ok (acc, c)
  | n + 1, acc, c => do
    let (run, c) := c.takeWhile fun ch => !isStop ch
    let acc := acc ++ run
    let ch := c.next
    if !double && ch = '\'' && c.peek 1 = '\'' then word double n (acc ++ ['\'']) (c.skip 2)
    else if (double && ch = '\'') || (!double && (ch = '"' || ch = '\\')) then
      word double n (acc ++ [ch]) c.step
    else if double && ch = '\\' then
      let (out, c) ← escape c.step
      word double n (acc ++ out) c
    else return (acc, c)

/-- Spaces, or the breaks of lines: a single one folds into a space. -/
def gap (c : Cursor) : Except Fault (List Char × Cursor) := do
  let (blanks, c) := c.takeWhile fun ch => ch = ' ' || ch = '\t'
  if c.next = nul then .error .badDocument
  else if isBreak c.next then
    let (first, c) := c.lineBreak
    let (rest, c) ← breaks (c.rest.length + 1) [] c
    return (if first ≠ ['\n'] then first ++ rest else if rest.isEmpty then [' '] else rest, c)
  else return (blanks, c)

/-- Words and gaps up to the closing quote. -/
def pieces (double : Bool) (quote : Char) : Nat → List Char → Cursor → Except Fault (List Char × Cursor)
  | 0, _, _ => .error .badDocument
  | n + 1, acc, c => do
    if c.next = quote then return (acc, c.step)
    let (g, c) ← gap c
    let (w, c) ← word double (c.rest.length + 1) [] c
    pieces double quote n (acc ++ g ++ w) c

def read (double : Bool) (c : Cursor) : Except Fault (List Char × Cursor) := do
  let quote := if double then '"' else '\''
  let (w, c) ← word double (c.rest.length + 1) [] c.step
  pieces double quote (c.rest.length + 1) w c

end SessionKeeper.Yaml.Quoted

import SessionKeeper.Fault
import SessionKeeper.Yaml.Cursor

/-!
# Block scalars

* `Block.Chomping`, `Block.Header` : how the end of the text is treated, and how far it is indented.
* `Block.readHeader` : the header of a block scalar.
* `Block.read` : a block scalar, literal or folded.
-/

namespace SessionKeeper.Yaml.Block

/-- What becomes of the breaks of lines at the end: one is kept, all are, or none. -/
inductive Chomping where
  | clip
  | keep
  | strip
deriving DecidableEq

/-- The header of a block scalar. -/
structure Header where
  chomping : Chomping
  indent : Option Nat

def chompingOf? (c : Char) : Option Chomping :=
  if c = '+' then some .keep else if c = '-' then some .strip else none

/-- The indentation that a digit asks for; zero is refused. -/
def indentOf? (c : Char) : Except Fault (Option Nat) :=
  if c = '0' then .error .badDocument
  else if c.isDigit then .ok (some (c.toNat - 48))
  else .ok none

/-- The sign and the digit of a header, in any order. -/
def readHeader (c : Cursor) : Except Fault (Header × Cursor) :=
  match chompingOf? c.next with
  | some ch => do
    let c := c.step
    match ← indentOf? c.next with
    | some i => return (⟨ch, some i⟩, c.step)
    | none => return (⟨ch, none⟩, c)
  | none => do
    match ← indentOf? c.next with
    | some i =>
      let c := c.step
      match chompingOf? c.next with
      | some ch => return (⟨ch, some i⟩, c.step)
      | none => return (⟨.clip, some i⟩, c)
    | none => return (⟨.clip, none⟩, c)

/-- The rest of the line of a header, which may hold a comment. -/
def endHeader (c : Cursor) : Except Fault Cursor :=
  if !isSpaceOrEnd c.next then .error .badDocument
  else
    let c := c.skipSpaces
    let c := if c.next = '#' then c.skipLine else c
    if isLineEnd c.next then .ok c.lineBreak.2 else .error .badDocument

/-- The empty lines before the text, and the widest indentation in them. -/
def leading : Nat → List Char → Nat → Cursor → List Char × Nat × Cursor
  | 0, acc, widest, c => (acc, widest, c)
  | n + 1, acc, widest, c =>
    if c.next = ' ' then
      let c := c.step
      leading n acc (max widest c.column) c
    else if isBreak c.next then
      let (b, c) := c.lineBreak
      leading n (acc ++ b) widest c
    else (acc, widest, c)

/-- The place after spaces, but not beyond a column. -/
def indentTo (column : Nat) (c : Cursor) : Cursor :=
  c.skip (min (column - c.column) (c.rest.takeWhile (· = ' ')).length)

def breaks (indent : Nat) : Nat → List Char → Cursor → List Char × Cursor
  | 0, acc, c => (acc, c)
  | n + 1, acc, c =>
    let c := indentTo indent c
    if isBreak c.next then
      let (b, c) := c.lineBreak
      breaks indent n (acc ++ b) c
    else (acc, c)

/-- The text of the lines so far, the break of the last one, the breaks of the empty lines after it. -/
structure Lines where
  text : List Char
  lastBreak : List Char
  empty : List Char
  place : Cursor

/-- Whether a line of the text begins here. -/
def isAtLine (indent : Nat) (c : Cursor) : Bool := c.column = indent && c.next ≠ nul

/-- Whether the character is neither space nor tab. -/
def isWordStart (c : Char) : Bool := c ≠ ' ' && c ≠ '\t'

/-- How two lines are joined. -/
def joint (folds : Bool) (lastBreak empty : List Char) (wordBefore wordAfter : Bool) : List Char :=
  if folds && lastBreak = ['\n'] && wordBefore && wordAfter then
    if empty.isEmpty then [' '] else []
  else lastBreak

def linesFrom (folds : Bool) (indent : Nat) : Nat → Lines → Lines
  | 0, l => l
  | n + 1, l =>
    if isAtLine indent l.place then
      let (line, c) := l.place.takeWhile fun ch => !isBreak ch
      let (lastBreak, c) := c.lineBreak
      let (empty, c) := breaks indent (c.rest.length + 1) [] c
      let text := l.text ++ l.empty ++ line
      if isAtLine indent c then
        let join := joint folds lastBreak empty (isWordStart l.place.next) (isWordStart c.next)
        linesFrom folds indent n ⟨text ++ join, lastBreak, empty, c⟩
      else ⟨text, lastBreak, empty, c⟩
    else l

/-- The text of the lines with the end that the chomping asks for. -/
def finish (chomping : Chomping) (l : Lines) : List Char :=
  match chomping with
  | .clip => l.text ++ l.lastBreak
  | .keep => l.text ++ l.lastBreak ++ l.empty
  | .strip => l.text

/-- The block scalar ahead, inside a block of the given column. -/
def read (folds : Bool) (outer : Int) (c : Cursor) : Except Fault (List Char × Cursor) := do
  let (header, c) ← readHeader c.step
  let c ← endHeader c
  let least := max 1 (outer + 1).toNat
  let fuel := c.rest.length + 1
  let (indent, empty, c) :=
    match header.indent with
    | none =>
      let (empty, widest, c) := leading fuel [] 0 c
      (max least widest, empty, c)
    | some i =>
      let (empty, c) := breaks (least + i - 1) fuel [] c
      (least + i - 1, empty, c)
  let l := linesFrom folds indent fuel ⟨[], [], empty, c⟩
  return (finish header.chomping l, l.place)

end SessionKeeper.Yaml.Block

import SessionKeeper.Yaml.Scalar.Block
import SessionKeeper.Yaml.Scalar.Plain
import SessionKeeper.Yaml.Token.Tag

/-!
# Text to tokens

The indentation of blocks is turned into tokens where they begin and end. Whether a node is the key of
a mapping shows only at the colon after it: the place of a possible key is kept until then.

* `Lexer` : where the reading stands.
* `Lexer.token` : reads the next token.
* `Token.ofText` : the tokens of a text.
-/

namespace SessionKeeper.Yaml

/-- A node that may turn out to be a key: the number of its token, and whether nothing else is
possible there. -/
structure PossibleKey where
  token : Nat
  isRequired : Bool
  place : Cursor

/-- Where the reading stands. -/
structure Lexer where
  place : Cursor
  tokens : List Token
  /-- How many brackets are open. -/
  depth : Nat
  /-- The column of the innermost block. -/
  indent : Int
  /-- The columns of the blocks around it. -/
  outer : List Int
  /-- Whether a key may begin here. -/
  mayBeginKey : Bool
  /-- The possible key of each depth of brackets. -/
  keys : List (Nat × PossibleKey)

namespace Lexer

/-- The beginning of a text. -/
def start (cs : List Char) : Lexer := ⟨.start cs, [], 0, -1, [], true, []⟩

/-- Whether the place lies inside brackets. -/
def inFlow (l : Lexer) : Bool := l.depth ≠ 0

def emit (l : Lexer) (t : Token) : Lexer := { l with tokens := l.tokens ++ [t] }

def emitAt (l : Lexer) (t : Token) (c : Cursor) : Lexer := { l with tokens := l.tokens ++ [t], place := c }

def insertAt (l : Lexer) (i : Nat) (ts : List Token) : Lexer :=
  { l with tokens := l.tokens.take i ++ ts ++ l.tokens.drop i }

/-! ## Possible keys -/

def keyLength : Nat := 1024

/-- Whether the possible key lies too far back. -/
def isStale (l : Lexer) (k : PossibleKey) : Bool :=
  k.place.line ≠ l.place.line || keyLength < l.place.index - k.place.index

/-- Drops the possible keys that lie too far back; one that had to be a key is an error. -/
def dropStale (l : Lexer) : Except Fault Lexer :=
  if l.keys.any fun e => l.isStale e.2 && e.2.isRequired then .error .badDocument
  else .ok { l with keys := l.keys.filter fun e => !l.isStale e.2 }

def key? (l : Lexer) : Option PossibleKey := (l.keys.find? (·.1 = l.depth)).map (·.2)

/-- The same place without the possible key of this depth. -/
def withoutKey (l : Lexer) : Lexer := { l with keys := l.keys.filter (·.1 ≠ l.depth) }

/-- Drops the possible key of this depth; one that had to be a key is an error. -/
def dropKey (l : Lexer) : Except Fault Lexer :=
  if l.key?.any (·.isRequired) then .error .badDocument else .ok l.withoutKey

/-- Notes that the node ahead may be a key. -/
def noteKey (l : Lexer) : Except Fault Lexer :=
  if !l.mayBeginKey then .ok l
  else do
    let required := !l.inFlow && l.indent = (l.place.column : Int)
    let l ← l.dropKey
    return { l with keys := (l.depth, ⟨l.tokens.length, required, l.place⟩) :: l.keys }

/-! ## Blocks -/

/-- Ends the blocks that lie to the right of a column. -/
def unwind (column : Int) : List Int → Lexer → Lexer
  | [], l => l
  | o :: outer, l =>
    if column < l.indent then
      unwind column outer { l with tokens := l.tokens ++ [.blockEnd], indent := o, outer := outer }
    else l

/-- Ends blocks; inside brackets there are none to end. -/
def unwindTo (l : Lexer) (column : Int) : Lexer := if l.inFlow then l else unwind column l.outer l

/-- Whether a block that begins at the column lies to the right of the innermost one. -/
def isDeeper (l : Lexer) (column : Nat) : Bool := l.indent < (column : Int)

def indentAt (l : Lexer) (column : Nat) : Lexer := { l with indent := column, outer := l.indent :: l.outer }

/-- Begins a block here unless one begins at this column already; only where a key may begin. -/
def beginBlock (l : Lexer) (t : Token) : Except Fault Lexer :=
  if l.inFlow then .ok l
  else if !l.mayBeginKey then .error .badDocument
  else if l.isDeeper l.place.column then .ok ((l.indentAt l.place.column).emit t)
  else .ok l

/-! ## Tokens -/

/-- Passes spaces, comments and ends of lines. -/
def skipBlank : Nat → Lexer → Lexer
  | 0, l => l
  | n + 1, l =>
    let c := l.place.skipSpaces
    let c := if c.next = '#' then c.skipLine else c
    if isBreak c.next then
      skipBlank n { l with place := c.lineBreak.2, mayBeginKey := l.mayBeginKey || !l.inFlow }
    else { l with place := c }

def toToken (l : Lexer) : Lexer :=
  let l := if l.place.index = 0 && l.place.next = '\uFEFF' then { l with place := l.place.step } else l
  skipBlank (l.place.rest.length + 1) l

/-- Where a document begins or ends: no block goes on. -/
def boundary (l : Lexer) : Except Fault Lexer := do
  let l ← (l.unwindTo (-1)).dropKey
  return { l with mayBeginKey := false }

def directive (l : Lexer) : Except Fault Lexer := do
  let l ← l.boundary
  let (d, c) ← Directive.read l.place
  return l.emitAt (.directive d) c

def separator (l : Lexer) (t : Token) : Except Fault Lexer := do
  let l ← l.boundary
  return l.emitAt t (l.place.skip 3)

def openBracket (l : Lexer) (t : Token) : Except Fault Lexer := do
  let l ← l.noteKey
  return { l.emitAt t l.place.step with depth := l.depth + 1, mayBeginKey := true }

def closeBracket (l : Lexer) (t : Token) : Except Fault Lexer := do
  let l ← l.dropKey
  if l.depth = 0 then .error .badDocument
  return { l.emitAt t l.place.step with depth := l.depth - 1, mayBeginKey := false }

def comma (l : Lexer) : Except Fault Lexer := do
  let l ← { l with mayBeginKey := true }.dropKey
  return l.emitAt .flowEntry l.place.step

def hyphen (l : Lexer) : Except Fault Lexer := do
  let l ← l.beginBlock .blockSequence
  let l ← { l with mayBeginKey := true }.dropKey
  return l.emitAt .blockEntry l.place.step

def question (l : Lexer) : Except Fault Lexer := do
  let l ← l.beginBlock .blockMapping
  let l ← { l with mayBeginKey := !l.inFlow }.dropKey
  return l.emitAt .key l.place.step

/-- The colon after a possible key, which thereby is one. -/
def colonAfter (l : Lexer) (k : PossibleKey) : Lexer :=
  let l := l.withoutKey
  let begins := !l.inFlow && l.isDeeper k.place.column
  let l := l.insertAt k.token (if begins then [.blockMapping, .key] else [.key])
  let l := if begins then l.indentAt k.place.column else l
  { l.emitAt .value l.place.step with mayBeginKey := false }

def colon (l : Lexer) : Except Fault Lexer :=
  match l.key? with
  | some k => .ok (l.colonAfter k)
  | none => do
    let l ← l.beginBlock .blockMapping
    let l ← { l with mayBeginKey := !l.inFlow }.dropKey
    return l.emitAt .value l.place.step

/-- Something that may be a key, read from here. -/
def keyed (l : Lexer) (read : Cursor → Except Fault (Token × Cursor)) : Except Fault Lexer := do
  let l ← l.noteKey
  let (t, c) ← read l.place
  return { l.emitAt t c with mayBeginKey := false }

def blockScalar (l : Lexer) (folds : Bool) : Except Fault Lexer := do
  let l ← { l with mayBeginKey := true }.dropKey
  let (text, c) ← Block.read folds l.indent l.place
  return l.emitAt (.scalar (String.ofList text) false) c

def plain (l : Lexer) : Except Fault Lexer := do
  let l ← l.noteKey
  let r := Plain.read l.inFlow (l.indent + 1) l.place
  return { l.emitAt (.scalar (String.ofList r.text) true) r.place with mayBeginKey := r.broken }

/-- The characters that begin no plain scalar. -/
def indicators : List Char := "-?:,[]\x7b\x7d#&*!|>'\"%@".toList ++ [Char.ofNat 96]

def isPlain (l : Lexer) : Bool :=
  let ch := l.place.next
  !(isGap ch || indicators.contains ch) ||
    (!isGap (l.place.peek 1) && (ch = '-' || (!l.inFlow && (ch = '?' || ch = ':'))))

/-- Whether the mark ahead stands alone; inside brackets it always does. -/
def isAlone (l : Lexer) : Bool := l.inFlow || isGap (l.place.peek 1)

def readQuoted (double : Bool) (c : Cursor) : Except Fault (Token × Cursor) := do
  let (text, c) ← Quoted.read double c
  return (.scalar (String.ofList text) false, c)

/-- The token at this place, which is not the end. -/
def token (l : Lexer) : Except Fault Lexer :=
  let c := l.place
  let ch := c.next
  if ch = '%' && c.column = 0 then l.directive
  else if c.column = 0 && c.isMarker '-' then l.separator .documentStart
  else if c.column = 0 && c.isMarker '.' then l.separator .documentEnd
  else if ch = '[' then l.openBracket .flowSequence
  else if ch = '\x7b' then l.openBracket .flowMapping
  else if ch = ']' then l.closeBracket .flowSequenceEnd
  else if ch = '\x7d' then l.closeBracket .flowMappingEnd
  else if ch = ',' then l.comma
  else if ch = '-' && isGap (c.peek 1) then l.hyphen
  else if ch = '?' && l.isAlone then l.question
  else if ch = ':' && l.isAlone then l.colon
  else if ch = '*' then l.keyed fun c => do let (n, c) ← readName c; return (.alias n, c)
  else if ch = '&' then l.keyed fun c => do let (n, c) ← readName c; return (.anchor n, c)
  else if ch = '!' then l.keyed fun c => do let (t, c) ← TagName.read c; return (.tag t, c)
  else if ch = '|' && !l.inFlow then l.blockScalar false
  else if ch = '>' && !l.inFlow then l.blockScalar true
  else if ch = '\'' then l.keyed (readQuoted false)
  else if ch = '"' then l.keyed (readQuoted true)
  else if l.isPlain then l.plain
  else .error .badDocument

/-- The place of the next token, with the blocks ended that do not reach it. -/
def settle (l : Lexer) : Except Fault Lexer := do
  let l ← l.toToken.dropStale
  return l.unwindTo l.place.column

/-- The tokens from here to the end, in a number of steps that suffices. -/
def run : Nat → Lexer → Except Fault (List Token)
  | 0, _ => .error .badDocument
  | n + 1, l => do
    let l ← l.settle
    if l.place.next = nul then return (← l.boundary).tokens
    run n (← l.token)

end Lexer

def Token.ofText (cs : List Char) : Except Fault (List Token) := Lexer.run (cs.length + 1) (.start cs)

end SessionKeeper.Yaml

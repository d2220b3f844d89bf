import SessionKeeper.Yaml.Cursor

/-!
# Plain scalars

* `Plain.wordLength` : how far a word of a plain scalar goes.
* `Plain.spaces` : what stands between two words: spaces, or the breaks of lines.
* `Plain.read` : a plain scalar.
-/

namespace SessionKeeper.Yaml.Plain

/-- The characters that end a word inside brackets. -/
def flowMarks : List Char := [',', '?', '[', ']', '\x7b', '\x7d']

/-- The characters that make a colon before them end a word inside brackets. -/
def flowStops : List Char := [',', '[', ']', '\x7b', '\x7d']

/-- Whether a word ends before the first of these characters. -/
def isWordEnd (inFlow : Bool) (c : Char) (rest : List Char) : Bool :=
  let after := rest.headD nul
  isGap c || (c = ':' && (isGap after || (inFlow && flowStops.contains after))) ||
    (inFlow && flowMarks.contains c)

/-- The length of the word at the beginning of the text. -/
def wordLength (inFlow : Bool) : List Char → Nat
  | [] => 0
  | c :: rest => if isWordEnd inFlow c rest then 0 else wordLength inFlow rest + 1

/-- What stands between two words. -/
structure Gap where
  /-- What the gap becomes in the text; nothing ends the scalar. -/
  text : List Char
  /-- Whether a line ended. -/
  broken : Bool
  place : Cursor

/-- The further breaks of lines in a gap; nothing when documents are separated there. -/
def breaks : Nat → List Char → Cursor → Option (List Char) × Cursor
  | 0, acc, c => (some acc, c)
  | n + 1, acc, c =>
    if c.next = ' ' then breaks n acc c.step
    else if isBreak c.next then
      let (b, c) := c.lineBreak
      if c.isSeparator then (none, c) else breaks n (acc ++ b) c
    else (some acc, c)

/-- A single break of a line folds into a space; further ones stay. -/
def folded (first rest : List Char) : List Char :=
  if first ≠ ['\n'] then first ++ rest else if rest.isEmpty then [' '] else rest

def spaces (c : Cursor) : Gap :=
  let (blanks, c) := c.takeWhile (· = ' ')
  if isBreak c.next then
    let (first, c) := c.lineBreak
    if c.isSeparator then ⟨[], true, c⟩
    else
      match breaks c.rest.length [] c with
      | (none, c) => ⟨[], true, c⟩
      | (some rest, c) => ⟨folded first rest, true, c⟩
  else ⟨blanks, false, c⟩

/-- The text of a scalar, where it ends, and whether a line ended after its last word. -/
structure Result where
  text : List Char
  place : Cursor
  broken : Bool

/-- The words from here on, the gap before them first. -/
def wordsFrom (inFlow : Bool) (indent : Int) : Nat → Result → List Char → Result
  | 0, r, _ => r
  | n + 1, r, gap =>
    let length := if r.place.next = '#' then 0 else wordLength inFlow r.place.rest
    if length = 0 then r
    else
      let text := r.text ++ gap ++ r.place.rest.take length
      let g := spaces (r.place.skip length)
      let r : Result := ⟨text, g.place, g.broken⟩
      if g.text.isEmpty || g.place.next = '#' || (!inFlow && (g.place.column : Int) < indent) then r
      else wordsFrom inFlow indent n r g.text

def read (inFlow : Bool) (indent : Int) (c : Cursor) : Result :=
  wordsFrom inFlow indent (c.rest.length + 1) ⟨[], c, false⟩ []

end SessionKeeper.Yaml.Plain

import SessionKeeper.Fault
import SessionKeeper.Text.Utf8
import SessionKeeper.Yaml.Cursor
import SessionKeeper.Yaml.Scalar.Quoted
import SessionKeeper.Yaml.Token

/-!
# Tags, names and directives

* `TagName.read` : a tag.
* `readName` : the name of an anchor or an alias.
* `Directive.read` : a directive.
-/

namespace SessionKeeper.Yaml

/-! ## Tags -/

/-- Whether the character may stand in a tag. -/
def isTagChar (c : Char) : Bool := c.isAlphanum || "-;/?:@&=+$,_.!~*'()[]%".toList.contains c

def escapedOctets : Nat → List UInt8 → Cursor → Except Fault (List UInt8 × Cursor)
  | 0, acc, c => .ok (acc, c)
  | n + 1, acc, c =>
    if c.next ≠ '%' then .ok (acc, c)
    else
      let c := c.step
      let digits := c.rest.take 2
      if digits.length < 2 || !digits.all isHexDigit then .error .badDocument
      else escapedOctets n (acc ++ [(Quoted.ofHexDigits digits).toUInt8]) (c.skip 2)

/-- The characters of a tag, with escapes resolved. -/
def tagText : Nat → List Char → Cursor → Except Fault (List Char × Cursor)
  | 0, acc, c => .ok (acc, c)
  | n + 1, acc, c => do
    let (run, c) := c.takeWhile fun ch => ch ≠ '%' && isTagChar ch
    let acc := acc ++ run
    if c.next = '%' then
      let (octets, c) ← escapedOctets c.rest.length [] c
      match Text.decodeUtf8? false octets with
      | some out => tagText n (acc ++ out) c
      | none => .error .badDocument
    else return (acc, c)

/-- The text of a tag; it is not empty. -/
def readTagText (c : Cursor) : Except Fault (String × Cursor) := do
  if !isTagChar c.next then .error .badDocument
  let (out, c) ← tagText (c.rest.length + 1) [] c
  return (String.ofList out, c)

/-- The abbreviation in front of a tag: an exclamation mark, or a name between two. -/
def readHandle (c : Cursor) : Except Fault (String × Cursor) :=
  if c.next ≠ '!' then .error .badDocument
  else if c.peek 1 = ' ' then .ok ("!", c.step)
  else
    let (name, after) := c.step.takeWhile isNameChar
    if after.next = '!' then .ok (String.ofList ('!' :: (name ++ ['!'])), after.step)
    else .error .badDocument

/-- Whether an exclamation mark follows before the next space. -/
def hasHandle (c : Cursor) : Bool :=
  (c.step.rest.takeWhile fun ch => !isSpaceOrEnd ch).contains '!'

/-- The tag ahead, without what must follow it. -/
def readTagBody (c : Cursor) : Except Fault (TagName × Cursor) := do
  if c.peek 1 = '<' then
    let (suffix, c) ← readTagText (c.skip 2)
    if c.next ≠ '>' then .error .badDocument
    return (⟨none, suffix⟩, c.step)
  else if isGap (c.peek 1) then return (⟨none, "!"⟩, c.step)
  else if hasHandle c then
    let (handle, c) ← readHandle c
    let (suffix, c) ← readTagText c
    return (⟨some handle, suffix⟩, c)
  else
    let (suffix, c) ← readTagText c.step
    return (⟨some "!", suffix⟩, c)

/-- The tag ahead; a space or the end of the line follows it. -/
def TagName.read (c : Cursor) : Except Fault (TagName × Cursor) := do
  let (t, c) ← readTagBody c
  if isSpaceOrEnd c.next then return (t, c) else .error .badDocument

/-! ## Names -/

/-- The characters that may follow a name. -/
def isAfterName (c : Char) : Bool := isGap c || "?:,]\x7d%@".toList.contains c || c = Char.ofNat 96

/-- The name ahead, after its mark. -/
def readName (c : Cursor) : Except Fault (String × Cursor) :=
  let (name, c) := c.step.takeWhile isNameChar
  if name.isEmpty || !isAfterName c.next then .error .badDocument
  else .ok (String.ofList name, c)

/-! ## Directives -/

namespace Directive

def readNumber (c : Cursor) : Except Fault (Nat × Cursor) :=
  let (digits, c) := c.takeWhile Char.isDigit
  if digits.isEmpty then .error .badDocument else .ok (Decimal.ofDigits digits, c)

def readVersion (c : Cursor) : Except Fault (Directive × Cursor) := do
  let (major, c) ← readNumber c.skipSpaces
  if c.next ≠ '.' then .error .badDocument
  let (_, c) ← readNumber c.step
  if isSpaceOrEnd c.next then return (.version major, c) else .error .badDocument

def readShorthand (c : Cursor) : Except Fault (Directive × Cursor) := do
  let (handle, c) ← readHandle c.skipSpaces
  if c.next ≠ ' ' then .error .badDocument
  let (full, c) ← readTagText c.skipSpaces
  if isSpaceOrEnd c.next then return (.shorthand handle full, c) else .error .badDocument

/-- The rest of the line of a directive, which may hold a comment. -/
def endLine (c : Cursor) : Except Fault Cursor :=
  let c := c.skipSpaces
  let c := if c.next = '#' then c.skipLine else c
  if isLineEnd c.next then .ok c.lineBreak.2 else .error .badDocument

def read (c : Cursor) : Except Fault (Directive × Cursor) := do
  let (name, c) := c.step.takeWhile isNameChar
  if name.isEmpty || !isSpaceOrEnd c.next then .error .badDocument
  let (d, c) ←
    if name = "YAML".toList then readVersion c
    else if name = "TAG".toList then readShorthand c
    else .ok (.other, c.skipLine)
  return (d, ← endLine c)

end Directive

end SessionKeeper.Yaml

import SessionKeeper.Json.Value

/-!
# Reading structured values

* `Lexer` : text to tokens, one character at a time.
* `Builder` : tokens to a value, with a stack of the lists and objects still open.
* `Json.read` : both, with room for so many lists and objects inside one another.
-/

namespace SessionKeeper

namespace Json

/-- A mark or a value without parts. -/
inductive Token where
  | mark (c : Char)
  | scalar (j : Json)

/-- Where the reader of tokens stands; text and words are kept in reverse. -/
inductive Lexer where
  | between
  | word (acc : List Char)
  | quoted (acc : List Char) (high : Option Nat)
  | escape (acc : List Char) (high : Option Nat)
  | code (acc : List Char) (high : Option Nat) (left value : Nat)

/-- Whether the character belongs to a number or a word. -/
def isWordChar (c : Char) : Bool := c.isAlphanum || c = '-' || c = '+' || c = '.'

/-- Whether the character may stand between tokens. -/
def isSpace (c : Char) : Bool := c = ' ' || c = '\t' || c = '\n' || c = '\r'

/-- A mark that is a token of its own. -/
def isMark (c : Char) : Bool :=
  c = '[' || c = ']' || c = '\x7b' || c = '\x7d' || c = ',' || c = ':'

def maxDigits : Nat := 4300

/-- The digits of an integer: no zero in front of others. -/
def plainDigits (ds : List Char) : Bool :=
  !ds.isEmpty && ds.all Decimal.isDigit && (ds.length == 1 || ds.head? != some '0')

/-- An exponent: an optional sign and digits. -/
def exponent? (cs : List Char) : Option Int :=
  let (negative, ds) := Decimal.takeSign cs
  if !ds.isEmpty && ds.all Decimal.isDigit then
    some (if negative then -(Decimal.ofDigits ds : Int) else Decimal.ofDigits ds)
  else none

/-- A number: an integer, or with a point or an exponent a floating-point number. -/
def number? (cs : List Char) : Option Number := do
  let (negative, body) := match cs with
    | '-' :: rest => (true, rest)
    | _ => (false, cs)
  let (front, power) := Decimal.breakAt (fun c => c = 'e' || c = 'E') body
  let (whole, part) := Decimal.breakAt (· = '.') front
  if !plainDigits whole then none
  else match part, power with
    | none, none =>
      if maxDigits < whole.length then none
      else
        let n : Int := Decimal.ofDigits whole
        some (.integer (if negative then -n else n))
    | _, _ =>
      let ds := part.getD ['0']
      if ds.isEmpty || !ds.all Decimal.isDigit then none
      else
        let e ← match power with
          | none => some 0
          | some p => exponent? p
        some (.real (Decimal.floatOfScaled negative (Decimal.ofDigits (whole ++ ds)) (e - ds.length)))

/-- The value of a word: a number or one of the reserved words. -/
def word? (cs : List Char) : Option Json :=
  match String.ofList cs with
  | "null" => some null
  | "true" => some (bool true)
  | "false" => some (bool false)
  | "NaN" => some (number (.real (0.0 / 0.0)))
  | "Infinity" => some (number (.real (1.0 / 0.0)))
  | "-Infinity" => some (number (.real (-1.0 / 0.0)))
  | _ => (number? cs).map number

/-- Text with a half that found no partner written out. -/
def flush (acc : List Char) : Option Nat → List Char
  | some h => Text.ofSurrogate h :: acc
  | none => acc

/-- Text with the character of a numeric escape; two halves in a row make one character. -/
def putCode (acc : List Char) (high : Option Nat) (n : Nat) : List Char × Option Nat :=
  match high with
  | some h =>
    if Text.isLow n then (Text.pair h n :: acc, none)
    else if Text.isHigh n then (Text.ofSurrogate h :: acc, some n)
    else (Text.ofCode n :: Text.ofSurrogate h :: acc, none)
  | none => if Text.isHigh n then (acc, some n) else (Text.ofCode n :: acc, none)

def hexValue? (c : Char) : Option Nat :=
  if '0' ≤ c && c ≤ '9' then some (c.toNat - 48)
  else if 'a' ≤ c && c ≤ 'f' then some (c.toNat - 87)
  else if 'A' ≤ c && c ≤ 'F' then some (c.toNat - 55)
  else none

def shortEscape? : Char → Option Char
  | '"' => some '"'
  | '\\' => some '\\'
  | '/' => some '/'
  | 'b' => some '\x08'
  | 'f' => some '\x0c'
  | 'n' => some '\n'
  | 'r' => some '\r'
  | 't' => some '\t'
  | _ => none

/-- One character between tokens: the tokens it completes and the new state. -/
def startToken (c : Char) : Option (List Token × Lexer) :=
  if isSpace c then some ([], .between)
  else if isMark c then some ([.mark c], .between)
  else if c = '"' then some ([], .quoted [] none)
  else if isWordChar c then some ([], .word [c])
  else none

/-- One character: the tokens it completes and the new state. -/
def Lexer.step (c : Char) : Lexer → Option (List Token × Lexer)
  | .between => startToken c
  | .word acc =>
    if isWordChar c then some ([], .word (c :: acc))
    else do
      let j ← word? acc.reverse
      let (ts, next) ← startToken c
      some (.scalar j :: ts, next)
  | .quoted acc high =>
    if c = '"' then some ([.scalar (text (String.ofList (flush acc high).reverse))], .between)
    else if c = '\\' then some ([], .escape acc high)
    else if c.toNat < 32 then none
    else some ([], .quoted (c :: flush acc high) none)
  | .escape acc high =>
    if c = 'u' then some ([], .code acc high 4 0)
    else (shortEscape? c).map fun e => ([], .quoted (e :: flush acc high) none)
  | .code acc high left value =>
    (hexValue? c).map fun d =>
      let n := value * 16 + d
      if left ≤ 1 then
        let (acc', high') := putCode acc high n
        ([], .quoted acc' high')
      else ([], .code acc high (left - 1) n)

/-- A list or an object still open; items are kept in reverse. -/
inductive Frame where
  | items (done : List Json)
  | fields (done : List (String × Json)) (key : String)

/-- What may come next. -/
inductive Expect where
  | value
  | itemOrClose
  | keyOrClose
  | key
  | colon
  | commaOrClose
  | finished (j : Json)

/-- The open lists and objects, innermost first, and what may come next. -/
structure Builder where
  open' : List Frame
  expect : Expect

/-- Puts a complete value where it belongs. -/
def Builder.place (frames : List Frame) (j : Json) : Builder :=
  match frames with
  | [] => ⟨[], .finished j⟩
  | .items done :: rest => ⟨.items (j :: done) :: rest, .commaOrClose⟩
  | .fields done key :: rest => ⟨.fields (put done key j) key :: rest, .commaOrClose⟩

def Builder.step (b : Builder) (t : Token) : Option Builder :=
  match b.expect, t, b.open' with
  | .value, .scalar j, frames => some (place frames j)
  | .itemOrClose, .scalar j, frames => some (place frames j)
  | .value, .mark '[', frames => some ⟨.items [] :: frames, .itemOrClose⟩
  | .itemOrClose, .mark '[', frames => some ⟨.items [] :: frames, .itemOrClose⟩
  | .value, .mark '\x7b', frames => some ⟨.fields [] "" :: frames, .keyOrClose⟩
  | .itemOrClose, .mark '\x7b', frames => some ⟨.fields [] "" :: frames, .keyOrClose⟩
  | .itemOrClose, .mark ']', .items done :: rest => some (place rest (list done.reverse))
  | .commaOrClose, .mark ']', .items done :: rest => some (place rest (list done.reverse))
  | .commaOrClose, .mark ',', .items done :: rest => some ⟨.items done :: rest, .value⟩
  | .keyOrClose, .mark '\x7d', .fields done _ :: rest => some (place rest (object done))
  | .commaOrClose, .mark '\x7d', .fields done _ :: rest => some (place rest (object done))
  | .commaOrClose, .mark ',', .fields done k :: rest => some ⟨.fields done k :: rest, .key⟩
  | .keyOrClose, .scalar (text k), .fields done _ :: rest => some ⟨.fields done k :: rest, .colon⟩
  | .key, .scalar (text k), .fields done _ :: rest => some ⟨.fields done k :: rest, .colon⟩
  | .colon, .mark ':', frames => some ⟨frames, .value⟩
  | _, _, _ => none

/-- Why a text writes no value that can be read. -/
inductive Failure where
  | malformed
  | tooDeep

/-- One token, where up to `room` lists and objects may stand open inside one another. -/
def Builder.put (room : Nat) (b : Builder) (t : Token) : Except Failure Builder :=
  match b.step t with
  | some b' => if room < b'.open'.length then .error .tooDeep else .ok b'
  | none => .error .malformed

def Builder.result (b : Builder) : Except Failure Json :=
  match b.expect with
  | .finished j => .ok j
  | _ => .error .malformed

/-- The value that the rest of a text writes. What is wrong first in the text is what it fails of, so the tokens
are put as they come. -/
def readFrom (room : Nat) : Lexer → Builder → List Char → Except Failure Json
  | state, b, c :: rest =>
    match state.step c with
    | none => .error .malformed
    | some (ts, next) =>
      match ts.foldlM (Builder.put room) b with
      | .ok b' => readFrom room next b' rest
      | .error f => .error f
  | .between, b, [] => b.result
  | .word acc, b, [] =>
    match word? acc.reverse with
    | some j => do (← b.put room (.scalar j)).result
    | none => .error .malformed
  | _, _, [] => .error .malformed

/-- The value that a text writes, where there is room for so many lists and objects inside one another. -/
def read (room : Nat) (cs : List Char) : Except Failure Json := readFrom room .between ⟨[], .value⟩ cs

/-- The value that a text writes, however deep it is. -/
def read? (cs : List Char) : Option Json := (read cs.length cs).toOption

end Json

end SessionKeeper

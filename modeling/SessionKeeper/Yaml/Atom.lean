import SessionKeeper.Decimal.Numeral
import SessionKeeper.Text.Casing
import SessionKeeper.Text.Utf8
import SessionKeeper.Yaml.Kind

/-!
# The values of scalars

* `Atom` : the value of a scalar.
* `Atom.integerOf`, `Atom.realOf`, `Atom.octetsOf?` : numbers and octets as they are written.
* `Atom.read` : the value of a scalar of a kind.
* `Atom.same` : whether two values are the same.
-/

namespace SessionKeeper.Yaml

/-- The value of a scalar. -/
inductive Atom where
  | null
  | flag (b : Bool)
  | number (n : Number)
  | text (s : String)
  | octets (bs : List UInt8)
  | stamp (s : Stamp)

namespace Atom

open Decimal Text

def bare (cs : List Char) : List Char := cs.filter (· ≠ '_')

/-! ## Integers -/

def digitValue (c : Char) : Nat :=
  if c.isDigit then c.toNat - 48 else if isHexDigit c then c.toNat % 32 + 9 else 99

/-- The letter that names a base in front of the digits. -/
def baseLetter? (base : Nat) : Option Char :=
  if base = 2 then some 'b' else if base = 8 then some 'o' else if base = 16 then some 'x' else none

/-- The digits without a zero and the letter of the base in front. -/
def dropBase (base : Nat) : List Char → List Char
  | '0' :: c :: rest => if baseLetter? base = some c.toLower then rest else '0' :: c :: rest
  | cs => cs

def ofDigitsIn? (base : Nat) (ds : List Char) : Option Nat :=
  if !ds.isEmpty && ds.all (fun c => digitValue c < base) then
    some (ds.foldl (fun n c => n * base + digitValue c) 0)
  else none

/-- The length of the text that a message shows. -/
def shownLength : Nat := 200

/-- The wording for text that writes no integer. -/
def literalMessage (base : Nat) (cs : List Char) : String :=
  "invalid literal for int() with base " ++ String.ofList (naturalText base) ++ ": " ++
    String.ofList ((quoted cs).take shownLength)

def integerIn (base : Nat) (cs : List Char) : Except Fault Int :=
  let (negative, body) := takeSign (Numeral.plain cs)
  match ofDigitsIn? base (dropBase base body) with
  | some n => .ok (if negative then -(n : Int) else n)
  | none => .error (.badValue (literalMessage base cs) none)

/-- The wording for an integer with too many digits. -/
def longMessage (digits : Nat) : String :=
  "Exceeds the limit (4300 digits) for integer string conversion: value has " ++
    String.ofList (naturalText digits) ++
    " digits; use sys.set_int_max_str_digits() to increase the limit"

def integerInTen (cs : List Char) : Except Fault Int :=
  match Numeral.integer cs with
  | .ok i => .ok i
  | .error .unreadable => .error (.badValue (literalMessage 10 cs) none)
  | .error (.tooLong digits) => .error (.badValue (longMessage digits) none)

/-- The number of the digits to the base sixty. -/
def sexagesimal (digits : List Int) : Int := digits.foldl (fun n d => n * 60 + d) 0

/-- An integer without its sign. -/
def magnitude (cs : List Char) : Except Fault Int :=
  match cs with
  | [] => .error .outOfRange
  | ['0'] => .ok 0
  | '0' :: 'b' :: ds => integerIn 2 ds
  | '0' :: 'x' :: ds => integerIn 16 ds
  | '0' :: _ => integerIn 8 cs
  | _ =>
    if cs.contains ':' then do return sexagesimal (← (Kind.parts ':' cs).mapM integerInTen)
    else integerInTen cs

/-- A text that is not empty, with its sign taken off. -/
def unsigned (cs : List Char) : Except Fault (Bool × List Char) :=
  if cs.isEmpty then .error .outOfRange else .ok (takeSign cs)

def integerOf (cs : List Char) : Except Fault Int := do
  let (negative, body) ← unsigned (bare cs)
  let n ← magnitude body
  return if negative then -n else n

/-! ## Floating-point numbers -/

/-- The wording for text that writes no number. -/
def numberMessage (cs : List Char) : String :=
  "could not convert string to float: " ++ String.ofList (quoted cs)

def decimal (cs : List Char) : Except Fault Float :=
  match Numeral.real? cs with
  | some x => .ok x
  | none => .error (.badValue (numberMessage cs) none)

/-- The sum of the digits to the base sixty, the last one first; the powers must be floating-point
numbers. -/
def sexagesimalReal (digits : List Float) : Except Fault Float :=
  let add (acc : Float × Nat) (d : Float) : Except Fault (Float × Nat) :=
    let power := floatOfInt acc.2
    if power.isInf then .error .tooLarge else .ok (acc.1 + d * power, acc.2 * 60)
  (digits.reverse.foldlM add (0.0, 1)).map (·.1)

/-- A floating-point number without its sign. -/
def magnitudeReal (cs : List Char) : Except Fault Float :=
  if cs = ".inf".toList then .ok (1.0 / 0.0)
  else if cs = ".nan".toList then .ok (0.0 / 0.0)
  else if cs.contains ':' then do sexagesimalReal (← (Kind.parts ':' cs).mapM decimal)
  else decimal cs

/-- A floating-point number as it is written. -/
def realOf (cs : List Char) : Except Fault Float := do
  let (negative, body) ← unsigned (lowerChars (bare cs))
  let x ← magnitudeReal body
  return if negative then -x else x

/-! ## Octets -/

/-- The value of a character that stands for six bits. -/
def sextet? (c : Char) : Option Nat :=
  if 'A' ≤ c && c ≤ 'Z' then some (c.toNat - 65)
  else if 'a' ≤ c && c ≤ 'z' then some (c.toNat - 71)
  else if c.isDigit then some (c.toNat + 4)
  else if c = '+' then some 62
  else if c = '/' then some 63
  else none

/-- The octets of groups of four characters; a last group may be short if it is padded. -/
def octetsFrom (out : List UInt8) (group : List Nat) (pads : Nat) : List Char → Option (List UInt8)
  | [] => if group.isEmpty then some out else none
  | c :: rest =>
    if c = '=' then
      if 2 ≤ group.length && 4 ≤ group.length + (pads + 1) then some out
      else octetsFrom out group (if 2 ≤ group.length then pads + 1 else pads) rest
    else
      match sextet? c, group with
      | none, _ => octetsFrom out group pads rest
      | some n, [] => octetsFrom out [n] 0 rest
      | some n, [a] => octetsFrom (out ++ [(a * 4 + n / 16).toUInt8]) [a, n] 0 rest
      | some n, [a, b] => octetsFrom (out ++ [(b % 16 * 16 + n / 4).toUInt8]) [a, b, n] 0 rest
      | some n, _ :: _ :: b :: _ => octetsFrom (out ++ [(b % 4 * 64 + n).toUInt8]) [] 0 rest

def octetsOf? (cs : List Char) : Option (List UInt8) :=
  if cs.all (·.toNat < 128) then octetsFrom [] [] 0 cs else none

/-! ## All kinds -/

/-- The truth value of a word. -/
def flagOf (cs : List Char) : Except Fault Bool :=
  let word := String.ofList (lowerChars cs)
  if word = "yes" || word = "true" || word = "on" then .ok true
  else if word = "no" || word = "false" || word = "off" then .ok false
  else .error (.missingKey (.name word))

/-- The date that a text writes. -/
def stampOf (cs : List Char) : Except Fault Stamp :=
  match Stamp.read? (Kind.trimmed cs) with
  | none => .error .noParts
  | some s => do
    s.check
    return s

/-- The value of a scalar of a kind. -/
def read (k : Kind) (s : String) : Except Fault Atom :=
  let cs := s.toList
  match k with
  | .null => .ok .null
  | .flag => do return .flag (← flagOf cs)
  | .integer => do return .number (.integer (← integerOf cs))
  | .real => do return .number (.real (← realOf cs))
  | .octets => match octetsOf? cs with
    | some bs => .ok (.octets bs)
    | none => .error .badDocument
  | .stamp => do return .stamp (← stampOf cs)
  | .text => .ok (.text s)
  | _ => .error .badDocument

/-- Whether the value is neither null nor false nor zero nor empty. -/
def isFilled : Atom → Bool
  | .null => false
  | .flag b => b
  | .number n => !n.isZero
  | .text s => !s.isEmpty
  | .octets bs => !bs.isEmpty
  | .stamp _ => true

/-- The number that a value counts as, if it counts as one. -/
def number? : Atom → Option Number
  | .flag b => some (.integer (if b then 1 else 0))
  | .number n => some n
  | _ => none

def isNan : Atom → Bool
  | .number (.real x) => x.isNaN
  | _ => false

/-- Whether two values are the same one among the members of a set; a truth value counts as a number. -/
def same (a b : Atom) : Bool :=
  match a, b with
  | .null, .null => true
  | .text s, .text t => s == t
  | .octets bs, .octets cs => bs == cs
  | .stamp s, .stamp t => s.same t
  | _, _ =>
    match a.number?, b.number? with
    | some m, some n => m.same n || (a.isNan && b.isNan)
    | _, _ => false

end Atom

end SessionKeeper.Yaml

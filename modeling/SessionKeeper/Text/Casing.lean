import SessionKeeper.Text.Casing.Table

/-!
# Letter case

* `lowerChars`, `lower` : lower case of every character; a capital sigma at the end of a word
  becomes the final sigma, and the dotted capital I takes two characters.
* `upperChars`, `upper` : upper case; some characters take several.
-/

namespace SessionKeeper.Text

namespace Casing

/-- Whether the run gives the character another case. -/
def Run.holds (r : Run) (n : Nat) : Bool :=
  r.first ≤ n && n ≤ r.last && (n - r.first) % r.stride == 0

/-- The other case of a code point by the first run that holds it, else the code point itself. -/
def shifted (runs : List Run) (n : Nat) : Nat :=
  match runs.find? (·.holds n) with
  | some r => (n + r.shift).toNat
  | none => n

/-- Whether the character has a case. -/
def isCased (c : Char) : Bool := Block.covers cased c

/-- Whether the search for the end of a word looks through the character. -/
def isTransparent (c : Char) : Bool := Block.covers transparent c

/-- Whether a cased character follows, seen through transparent ones. -/
def continues (rest : List Char) : Bool :=
  match rest.dropWhile isTransparent with
  | c :: _ => isCased c
  | [] => false

end Casing

open Casing

/-- Lower case of one character, its surroundings left aside. -/
def lowerChar (c : Char) : List Char :=
  if c.toNat < 128 then [c.toLower]
  else if c.toNat = 0x130 then ['i', Char.ofNat 0x307]
  else [Char.ofNat (shifted lowering c.toNat)]

/-- Lower case of a capital sigma: final at the end of a word, else the plain one. -/
def lowerSigma (inWord : Bool) (rest : List Char) : Char :=
  if inWord && !continues rest then 'ς' else 'σ'

/-- Lower case of text that follows a cased character, seen through transparent ones, if `inWord`. -/
def lowerFrom (inWord : Bool) : List Char → List Char
  | [] => []
  | c :: rest =>
    (if c = 'Σ' then [lowerSigma inWord rest] else lowerChar c) ++
      lowerFrom (if isTransparent c then inWord else isCased c) rest

def lowerChars (cs : List Char) : List Char := lowerFrom false cs

def lower (s : String) : String := String.ofList (lowerChars s.toList)

def upperChar (c : Char) : List Char :=
  if c.toNat < 128 then [c.toUpper]
  else match raisingToSeveral.lookup c.toNat with
    | some codes => codes.map Char.ofNat
    | none => [Char.ofNat (shifted raising c.toNat)]

def upperChars (cs : List Char) : List Char := cs.flatMap upperChar

def upper (s : String) : String := String.ofList (upperChars s.toList)

end SessionKeeper.Text

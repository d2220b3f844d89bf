import SessionKeeper.Decimal.Text
import SessionKeeper.Ownership

/-!
# Names of new workspaces

* `WorkspaceName.generate` : `ws-`, the short id, ten characters of the session's name, four digits of
  the time.
* `WorkspaceName.isValid` : the names that the provider takes.
-/

namespace SessionKeeper.WorkspaceName

open Text Ownership

/-- Whether the character is a lower-case letter or a digit. -/
def isPlain (c : Char) : Bool := ('a' ≤ c && c ≤ 'z') || ('0' ≤ c && c ≤ '9')

/-- Ten letters and digits of the session's name. -/
def labelChars (name : List Char) : List Char :=
  orWord "session".toList (((lowerChars name).filter isPlain).take 10)

/-- The last four digits of a time in milliseconds. -/
def suffixChars (time : Int) : List Char := Decimal.padded 4 (Decimal.naturalText (time.fmod 10000).toNat)

def generateChars (id name : List Char) (time : Int) : List Char :=
  stemChars id ++ labelChars name ++ '-' :: suffixChars time

/-- The name of a new workspace of a session with that id and name, at a time in milliseconds. -/
def generate (id name : String) (time : Int) : String :=
  String.ofList (generateChars id.toList name.toList time)

/-- A lower-case letter and up to 31 letters, digits, hyphens and underscores. -/
def isValidChars : List Char → Bool
  | [] => false
  | c :: rest => ('a' ≤ c && c ≤ 'z') && rest.all isNameSafe && rest.length ≤ 31

/-- Whether the provider takes the name; one line break at its end is overlooked. -/
def isValid (s : String) : Bool :=
  let cs := s.toList
  isValidChars (if cs.getLast? = some '\n' then cs.dropLast else cs)

end SessionKeeper.WorkspaceName

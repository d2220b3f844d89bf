import SessionKeeper.Text.Casing

/-!
# Which workspaces belong to a session

The provider does not know sessions, so ownership is read off names.

* `shortId`, `nameStem` : the part of a session's id that generated names carry, and how they begin.
* `ownsExplicitly` : a name, or the name of a template, carries the whole id.
* `belongs` : that, or the name begins like a generated one.
-/

namespace SessionKeeper

namespace Ownership

open Text

def occursIn (needle : List Char) : List Char → Bool
  | [] => needle.isEmpty
  | c :: rest => needle.isPrefixOf (c :: rest) || occursIn needle rest

/-- Whether the character may stand in the id part of a name. -/
def isNameSafe (c : Char) : Bool :=
  ('a' ≤ c && c ≤ 'z') || ('0' ≤ c && c ≤ '9') || c = '_' || c = '-'

/-- The text, or a stand-in when it is empty. -/
def orWord (word : List Char) (cs : List Char) : List Char := if cs.isEmpty then word else cs

/-- The first eight characters of the id in lower case, without those that names may not have. -/
def shortChars (id : List Char) : List Char :=
  orWord "session".toList ((lowerChars (id.take 8)).filter isNameSafe)

/-- How generated names of the session begin. -/
def stemChars (id : List Char) : List Char := "ws-".toList ++ shortChars id ++ ['-']

/-- The legacy mark in front of a whole id. -/
def legacyMark : List Char := "session-".toList

/-- Whether the name, or the name of the template, carries the whole id. -/
def explicitChars (id name template : List Char) : Bool :=
  !id.isEmpty &&
    (occursIn (lowerChars id) (lowerChars name) ||
      (legacyMark ++ lowerChars id).isPrefixOf (lowerChars name) ||
      (!template.isEmpty && occursIn (legacyMark ++ lowerChars id) (lowerChars template)))

/-- Whether the workspace may belong to the session. -/
def belongsChars (id name template : List Char) : Bool :=
  !id.isEmpty &&
    (explicitChars id name template || (stemChars id).isPrefixOf (lowerChars name))

end Ownership

open Ownership

/-- The part of a session's id that generated names carry. -/
def shortId (id : String) : String := String.ofList (shortChars id.toList)

/-- How generated names of the session begin. -/
def nameStem (id : String) : String := String.ofList (stemChars id.toList)

/-- Whether the name of a workspace, or of its template, carries the whole id of the session. -/
def ownsExplicitly (id name : String) (template : String) : Bool :=
  explicitChars id.toList name.toList template.toList

/-- Whether a workspace of that name, from that template, may belong to the session. -/
def belongs (id name : String) (template : String) : Bool :=
  belongsChars id.toList name.toList template.toList

end SessionKeeper

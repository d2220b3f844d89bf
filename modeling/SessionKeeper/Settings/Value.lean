import SessionKeeper.Field
import SessionKeeper.Text.Utf8

/-!
# Values of settings

A setting is read from text or from what a file holds, and a file may hold more kinds of values than
structured ones.

* `Settings.Value` : the values.
* `Value.text`, `Value.flag`, `Value.integer`, `Value.real`, `Value.texts` : one value.
-/

namespace SessionKeeper.Settings

/-- A value that a setting is read from. -/
inductive Value where
  | plain (j : Json)
  | octets (bs : List UInt8)
  | several (items : List Value)
  /-- A value of a kind that no setting has. -/
  | other
deriving Inhabited

/-- The chosen values by the names of their settings. -/
abbrev Choices := Named Value

/-- A structured value as it counts for a setting. -/
def Value.ofJson : Json → Value
  | .list items => several (items.map plain)
  | j => plain j

namespace Value

open Text

/-- Reads a structured value, or octets as the text that they encode; `garbled` is what is wrong with
octets that encode none, `wrong` with all other values. -/
def through {α : Type} (read : Json → Checked α) (garbled wrong : Problem) : Value → Checked α
  | plain j => read j
  | octets bs =>
    match decodeUtf8? false bs with
    | some cs => read (.text (String.ofList cs))
    | none => .problem garbled
  | _ => .problem wrong

def text : Value → Checked String := through Field.text .illFormed .notText

def textOrNull : Value → Checked (Option String) :=
  through (Field.orNull Field.text) .illFormed .notText

def flag : Value → Checked Bool := through Field.flag .unreadableFlag .notFlag

def integer : Value → Checked Int := through Field.integer .unreadableInteger .notInteger

def real : Value → Checked Float := through Field.real .unreadableReal .notReal

def texts : Value → Checked (List String)
  | several items => Field.itemsFrom text 0 items
  | _ => .problem .notList

end Value

end SessionKeeper.Settings

import SessionKeeper.Fault
import SessionKeeper.Field

/-!
# The level of the log

* `LogLevel` : a level, given as a number or as a truth value.
* `LogLevel.ofName?` : the number of a named level.
* `Log`, `Log.configure` : the level of the program's log and whether its one handler is in place.
* `Log.effective` : the level of a part of the program.
-/

namespace SessionKeeper

/-- A level; a truth value stays one, and counts as one or zero. -/
inductive LogLevel where
  | number (i : Int)
  | flag (b : Bool)
deriving DecidableEq

namespace LogLevel

/-- Whether the level leaves the choice to somebody else. -/
def isUnset : LogLevel → Bool
  | number i => i = 0
  | flag b => !b

def json : LogLevel → Json
  | number i => .ofInt i
  | flag b => .bool b

def names : List (String × Int) := [
  ("CRITICAL", 50), ("FATAL", 50), ("ERROR", 40), ("WARN", 30), ("WARNING", 30), ("INFO", 20),
  ("DEBUG", 10), ("NOTSET", 0)]

def ofName? (name : String) : Option Int := (names.find? (·.1 == name)).map (·.2)

/-- The level where nothing else is set. -/
def base : LogLevel := number 30

def unknownMessage (name : String) : String :=
  "Unknown level: " ++ String.ofList (Text.quoted name.toList)

/-- The level that a caller asks for: a number, a truth value or a name. -/
def ofValue : Json → Except Fault LogLevel
  | .number (.integer i) => .ok (number i)
  | .bool b => .ok (flag b)
  | .text name =>
    match ofName? name with
    | some i => .ok (number i)
    | none => .error (.badValue (unknownMessage name) none)
  | _ => .error .wrongKind

end LogLevel

/-- The log: its level, and the names of its handlers. -/
structure Log where
  level : LogLevel
  handlers : List String
deriving DecidableEq

namespace Log

/-- The log of a program that has just begun. -/
def initial : Log := ⟨.number 0, []⟩

def name : String := "executor"

def handlerName : String := "executor-stream"

/-- Sets the level and sees to it that the handler is in place once. -/
def configure (log : Log) (level : Json) : Except Fault Log := do
  let level ← LogLevel.ofValue level
  return ⟨level, if log.handlers.contains handlerName then log.handlers else log.handlers ++ [handlerName]⟩

/-- The name of the log of a part of the program. -/
def areaName (area : String) : String := name ++ "." ++ area

/-- The level that counts for a part of the program. -/
def effective (log : Log) : LogLevel := if log.level.isUnset then LogLevel.base else log.level

end Log

end SessionKeeper

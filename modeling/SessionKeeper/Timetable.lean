import SessionKeeper.Fault

/-!
# The timetable

Periodic tasks are added while the timetable rests; each of them is given a loop of its own when it
starts.

* `Routine` : what is done, and how long to wait.
* `Timetable` : the tasks, the loops that run, and the signal that ends them.
* `Timetable.add`, `Timetable.start`, `Timetable.stop` : the steps; a step that fails says why.
* `Timetable.find` : the task of a name.
-/

namespace SessionKeeper

/-- Something that is done again and again: first after `initialDelay`, then `interval` after each end. -/
structure Routine (α : Type) where
  name : String
  interval : Number
  action : α
  initialDelay : Number := .real 0.0

/-- The tasks, how many loops may run, the loops that run, and whether the signal to end is given. -/
structure Timetable (α : Type) where
  workers : Int
  tasks : List (Routine α)
  loops : Option (List (Routine α))
  stopSignal : Bool

namespace Timetable

variable {α : Type}

/-- A timetable without tasks, at rest. -/
def empty (workers : Int) : Timetable α := ⟨workers, [], none, false⟩

def isRunning (t : Timetable α) : Bool := t.loops.isSome

/-- The wording for an interval that is no time to wait. -/
def intervalMessage (name : String) : String := "interval must be positive: " ++ name

/-- The wording for a task that comes too late. -/
def runningMessage : String := "cannot add tasks to a running scheduler"

def workersMessage (tasks : Nat) (workers : Int) : String :=
  String.ofList (Decimal.naturalText tasks) ++ " tasks need at least as many workers (have " ++
    String.ofList (Decimal.integerText workers) ++ ")"

/-- The wording for a timetable that can run nothing. -/
def noWorkersMessage : String := "max_workers must be greater than 0"

def refusal? (t : Timetable α) (task : Routine α) : Option Fault :=
  if task.interval.atMost (.integer 0) then some (.badValue (intervalMessage task.name) none)
  else if t.isRunning then some (.badState runningMessage)
  else none

def add (t : Timetable α) (task : Routine α) : Option Fault × Timetable α :=
  match t.refusal? task with
  | some e => (some e, t)
  | none => (none, { t with tasks := t.tasks ++ [task] })

/-- Starts a loop for every task; a timetable that runs already stays as it is. -/
def start (t : Timetable α) : Option Fault × Timetable α :=
  if t.isRunning then (none, t)
  else if t.workers < t.tasks.length then
    (some (.badValue (workersMessage t.tasks.length t.workers) none), t)
  else if t.workers ≤ 0 then (some (.badValue noWorkersMessage none), { t with stopSignal := false })
  else (none, { t with loops := some t.tasks, stopSignal := false })

def stop (t : Timetable α) : Timetable α :=
  if t.isRunning then { t with loops := none, stopSignal := true } else t

def find (t : Timetable α) (name : String) : Except Fault (Routine α) :=
  match t.tasks.find? (·.name == name) with
  | some task => .ok task
  | none => .error (.missingKey (.name name))

end Timetable

end SessionKeeper

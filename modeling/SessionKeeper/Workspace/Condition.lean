import SessionKeeper.Text.Blank
import SessionKeeper.Text.Casing

/-!
# The condition of a workspace

* `Condition`, `Condition.ofStatus` : what the provider's free status text means.
* `Partition` : the workspaces of a session by condition.
-/

namespace SessionKeeper

/-- What a workspace is doing, as far as the keeper cares. -/
inductive Condition where
  | running
  | stopped
  | unknown
deriving DecidableEq, Inhabited

namespace Condition

def text : Condition → String
  | running => "running"
  | stopped => "stopped"
  | unknown => "unknown"

/-- Status texts of a workspace that runs or will. -/
def runningWords : List String := ["running", "starting"]

/-- Status texts of a workspace that does not run. -/
def stoppedWords : List String := ["stopped", "pending", "failed"]

/-- The condition that a status text means; white space around it and letter case do not count. -/
def ofStatus (status : String) : Condition :=
  let word := Text.lower (Text.strip status)
  if runningWords.contains word then running
  else if stoppedWords.contains word then stopped
  else unknown

end Condition

/-- Workspaces by condition, in the order in which they came. -/
structure Partition (α : Type) where
  running : List α
  stopped : List α
  unknown : List α

namespace Partition

def nil {α : Type} : Partition α := ⟨[], [], []⟩

def push {α : Type} (p : Partition α) (c : Condition) (a : α) : Partition α :=
  match c with
  | .running => { p with running := p.running ++ [a] }
  | .stopped => { p with stopped := p.stopped ++ [a] }
  | .unknown => { p with unknown := p.unknown ++ [a] }

/-- The partition of a list, the status text of each entry given by a function. -/
def ofList {α : Type} (status : α → String) (xs : List α) : Partition α :=
  xs.foldl (fun p a => p.push (Condition.ofStatus (status a)) a) nil

def isEmpty {α : Type} (p : Partition α) : Bool :=
  p.running.isEmpty && p.stopped.isEmpty && p.unknown.isEmpty

def allStopped {α : Type} (p : Partition α) : Bool := p.running.isEmpty && !p.stopped.isEmpty

/-- Whether some workspace is stopped and some runs. -/
def isMixed {α : Type} (p : Partition α) : Bool := !p.running.isEmpty && !p.stopped.isEmpty

end Partition

end SessionKeeper

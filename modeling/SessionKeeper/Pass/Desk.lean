import SessionKeeper.Pass

/-!
# The desk of the passes

* `Desk` : which passes run, and the last report of each.
* `Keeper.runPass` : a pass, unless it runs already; afterwards quiet circuits are forgotten.
-/

namespace SessionKeeper

/-- The passes that run, and the last report of each pass in the order of the first reports. -/
structure Desk where
  running : List Pass
  reports : List Report
deriving DecidableEq, Inhabited

namespace Desk

/-- Nothing runs and nothing is reported. -/
def empty : Desk := ⟨[], []⟩

def isRunning (d : Desk) (p : Pass) : Bool := d.running.contains p

def take (d : Desk) (p : Pass) : Desk := { d with running := p :: d.running }

def release (d : Desk) (p : Pass) : Desk := { d with running := d.running.filter (· != p) }

def report? (d : Desk) (p : Pass) : Option Report := d.reports.find? (·.pass == p)

/-- Keeps a report as the last one of its pass. -/
def store (d : Desk) (r : Report) : Desk :=
  { d with
    reports :=
      if d.reports.any (·.pass == r.pass) then d.reports.map fun q => if q.pass == r.pass then r else q
      else d.reports ++ [r] }

end Desk

def Pass.unknownMessage (name : String) : String := "unknown pass: " ++ name

def Pass.ofText (name : String) : Except Fault Pass :=
  match Pass.ofText? name with
  | some p => .ok p
  | none => .error (.badValue (Pass.unknownMessage name) none)

namespace Keeper

variable {σ τ : Type} [Timeline τ] [Surroundings σ τ]

/-- Runs a pass, unless it runs already: then nothing is done. -/
def runPass (k : Keeper τ) (p : Pass) : StateT Desk (Effect σ τ) Report := do
  if (← get).isRunning p then return Report.busy p
  modify (·.take p)
  let r ← StateT.lift (k.overSessions p)
  modify (·.store r)
  modify (·.release p)
  let _ ← StateT.lift k.guard.prune
  return r

end Keeper

end SessionKeeper

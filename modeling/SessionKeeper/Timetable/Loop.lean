import SessionKeeper.Timetable

/-!
# The loop of a task

* `Signal` : the signal that ends loops, and the run of the task, with a state of their own.
* `Loop.Event` : what a loop does: it waits, looks at the signal, or runs the task.
* `Loop.run` : a loop, for a number of rounds at most.
-/

namespace SessionKeeper

/-- What a loop meets outside: the signal to end, and the task. -/
structure Signal (σ : Type) where
  /-- Looks at the signal. -/
  isGiven : σ → Bool × σ
  /-- Waits for the signal, but no longer than some seconds; tells whether it was given. -/
  wait : Number → σ → Bool × σ
  /-- Runs the task. -/
  perform : σ → Option Fault × σ

namespace Loop

/-- Something that a loop did, with the answer it got. -/
inductive Event where
  | waited (seconds : Number) (given : Bool)
  | looked (given : Bool)
  | ran (fault : Option Fault)

variable {σ : Type}

/-- Rounds of a loop: it looks at the signal, runs the task and waits, until the signal is given. -/
def rounds (signal : Signal σ) (interval : Number) : Nat → σ → List Event × σ
  | 0, s => ([], s)
  | n + 1, s =>
    let (given, s) := signal.isGiven s
    if given then ([.looked true], s)
    else
      let (fault, s) := signal.perform s
      let (given, s) := signal.wait interval s
      let front := [.looked false, .ran fault, .waited interval given]
      if given then (front, s)
      else
        let (rest, s) := rounds signal interval n s
        (front ++ rest, s)

/-- The loop of a task: a first delay is waited for unless it is zero. -/
def run (signal : Signal σ) (interval initialDelay : Number) (limit : Nat) (s : σ) : List Event × σ :=
  if initialDelay.isZero then rounds signal interval limit s
  else
    let (given, s) := signal.wait initialDelay s
    if given then ([.waited initialDelay true], s)
    else
      let (rest, s) := rounds signal interval limit s
      (.waited initialDelay false :: rest, s)

end Loop

end SessionKeeper

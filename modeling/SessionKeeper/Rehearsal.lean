import SessionKeeper.Call

/-!
# Rehearsals

Surroundings that follow a script: replies are given out in order, clocks move by hand.

* `Scripted`, `Exchange.answered` : an answer of the script.
* `Rehearsal` : the script.
* `Rehearsal.serve` : the next reply for a request.
* `Rehearsal.trial` : the next outcome of a call that only the script knows.
-/

namespace SessionKeeper

/-- An answer as a script has it. -/
structure Scripted where
  status : Int
  body : List UInt8
  contentType : Option String

/-- How many lists and objects inside one another can be read in a rehearsal: about a thousand calls may stand
inside one another, less those on the way to the reader. -/
def Rehearsal.room : Nat := 980

def Exchange.answered (a : Scripted) : Exchange := .received ⟨a.status, a.body, a.contentType, Rehearsal.room⟩

/-- A script: replies by route, clocks, the numbers that chance gives, and the outcomes of a call. -/
structure Rehearsal where
  /-- The replies of each route that are left; the last one repeats. -/
  routes : List (String × List Exchange)
  clock : Number
  milliseconds : Int
  /-- The numbers that chance gives; the last one repeats. -/
  chances : List Float
  /-- Whether the clock moves while somebody waits. -/
  sleepAdvances : Bool
  isClosed : Bool
  /-- The outcomes of a call, with the time that it takes; the last one repeats. -/
  outcomes : List (Number × Except Fault Json)

namespace Rehearsal

/-- The script of the default clocks, without replies. -/
def plain : Rehearsal where
  routes := []
  clock := .real 1000.0
  milliseconds := 0
  chances := [0.0]
  sleepAdvances := false
  isClosed := false
  outcomes := []

/-- The first of a list, and the list without it unless it is the last. -/
def draw {α : Type} : List α → Option (α × List α)
  | [] => none
  | [x] => some (x, [x])
  | x :: rest => some (x, rest)

/-- The answer where the script has none. -/
def nothingThere : Exchange := .answered ⟨404, [], none⟩

/-- The names of the routes of a request, in order of precedence. -/
def routesOf (r : Request) : List String :=
  [r.method ++ " " ++ r.url.target, r.method ++ " " ++ r.url.path, "*"]

/-- The first of the names that has replies. -/
def routeFor? (s : Rehearsal) (names : List String) : Option String :=
  names.find? fun name => s.routes.any fun e => e.1 == name && !e.2.isEmpty

/-- Replaces the replies of a route. -/
def put (s : Rehearsal) (name : String) (xs : List Exchange) : Rehearsal :=
  { s with routes := (name, xs) :: s.routes.filter (·.1 != name) }

def putAll (s : Rehearsal) (routes : List (String × List Exchange)) : Rehearsal :=
  routes.foldl (fun s e => s.put e.1 e.2) s

def serve (r : Request) (s : Rehearsal) : Exchange × Rehearsal :=
  if s.isClosed then (.closed, s)
  else
    match s.routeFor? (routesOf r) with
    | none => (nothingThere, s)
    | some name =>
      match draw (((s.routes.find? (·.1 == name)).map (·.2)).getD []) with
      | none => (nothingThere, s)
      | some (x, rest) => (x, s.put name rest)

def advance (s : Rehearsal) (seconds : Number) : Rehearsal := { s with clock := s.clock + seconds }

instance : Surroundings Rehearsal Number where
  exchange := serve
  now s := (s.clock, s)
  sleep seconds s := if s.sleepAdvances then s.advance (.real seconds) else s
  chance s := match draw s.chances with
    | some (x, rest) => (x, { s with chances := rest })
    | none => (0.0, s)
  milliseconds s := (s.milliseconds, s)
  close s := { s with isClosed := true }

/-- The next outcome of the call of the script. -/
def trial : Act Rehearsal Number Json := do
  let w : World Rehearsal Number ← get
  match draw w.outside.outcomes with
  | none => return .null
  | some ((seconds, outcome), rest) => do
    let s := { w.outside.advance seconds with outcomes := rest }
    set { w with outside := s }
    Act.ofExcept outcome

end Rehearsal

end SessionKeeper

import SessionKeeper.Call
import SessionKeeper.Endpoint

/-!
# The token of the provider

* `Credential.current?` : the token in use: the last renewed one, else the configured one.
* `Keyring`, `Keyring.renew` : exchanges the token for a new one.
* `Keyring.renewOnSchedule` : the same from the timetable; a failure is no fault there.
-/

namespace SessionKeeper

def Credential.current? (c : Credential) : Option String := c.renewed <|> c.configured

/-- The head field that carries the token, if there is one that is not empty. -/
def Credential.shown? (c : Credential) : Option String := c.current?.filter fun t => !t.isEmpty

/-- Where tokens are renewed. -/
structure Keyring where
  address : String

namespace Keyring

def interfacePath : String := "/api/v2"

def connect? (base : String) : Except Fault Keyring := do
  Endpoint.check base
  return ⟨Endpoint.root base interfacePath ++ "/users/me/tokens"⟩

def operation : String := "refresh_token"

/-- The lifetime of a new token, in seconds. -/
def lifetime : Int := 86400

/-- What the provider expects in the head of a request. -/
def acceptedType : String := "application/json"

def call (k : Keyring) (token : String) : Call where
  method := "POST"
  address := k.address
  operation := operation
  accept := acceptedType
  token := some token
  body := some (.object [("lifetime", .number (.integer lifetime))])

/-- The wording when there is no token. -/
def missingMessage : String := "no provider token configured; set EXECUTOR_PROVIDER_TOKEN"

/-- The wording when the answer holds no token. -/
def emptyMessage : String := "token refresh response carried no key"

/-- The new token in an answer. -/
def keyOf (data : Json) : Except Fault String :=
  match data.field "key" with
  | .text s => if s.isEmpty then .error (.renewal emptyMessage none) else .ok s
  | _ => .error (.renewal emptyMessage none)

/-- A failed call as a failed renewal; faults of other kinds stay. -/
def asRenewal (e : Fault) : Fault :=
  match e with
  | .remote .. => .renewal ("token refresh failed: " ++ e.message) (some e)
  | _ => e

variable {σ τ : Type} [Surroundings σ τ]

/-- Exchanges the token for a new one. -/
def renew (k : Keyring) : Act σ τ String := do
  let w ← get
  match w.credential.current? with
  | none => throw (.renewal missingMessage none)
  | some token => do
    let data ← match ← (k.call token).fetch.attempt with
      | .ok data => pure data
      | .error e => throw (asRenewal e)
    let key ← Act.ofExcept (keyOf data)
    modify fun w => { w with credential := { w.credential with renewed := some key } }
    return key

/-- Renews the token if there is one; tells whether that was done. A failed renewal is not a fault. -/
def renewOnSchedule (k : Keyring) : Act σ τ Bool := do
  let w ← get
  if w.credential.current?.isNone then return false
  match ← (k.renew).attempt with
  | .ok _ => return true
  | .error (.renewal ..) => return false
  | .error e => throw e

end Keyring

end SessionKeeper

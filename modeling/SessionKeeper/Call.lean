import SessionKeeper.ContentType
import SessionKeeper.Field
import SessionKeeper.Json.Octets
import SessionKeeper.World

/-!
# Calls to the services

* `Call`, `Call.request` : an operation of a service and the request that carries it.
* `RemoteKind.ofStatus`, `Reply.failure` : what a status from 400 on means.
* `Call.send` : sends the request; anything but an answer with a status below 400 is a fault.
* `Reply.value` : the structured value in the body of an answer.
-/

namespace SessionKeeper

/-! ## Requests -/

/-- An operation of a service. -/
structure Call where
  method : String
  address : String
  operation : String
  accept : String := "*/*"
  token : Option String := none
  params : Option Fields := none
  body : Option Json := none

/-- The call with a method that is written in any letter case. -/
def Call.withMethod (c : Call) (written : String) : Call := { c with method := Text.upper written }

/-- Whether the text can be written in octets. -/
def isWritable (s : String) : Bool := s.toList.all fun c => (Text.surrogate? c).isNone

mutual

/-- Whether all text of a value can be written in octets. -/
def Json.isWritable : Json → Bool
  | .text s => SessionKeeper.isWritable s
  | .list items => writableItems items
  | .object fields => writableFields fields
  | _ => true

def Json.writableItems : List Json → Bool
  | [] => true
  | j :: rest => j.isWritable && writableItems rest

/-- The same for the fields of an object. -/
def Json.writableFields : List (String × Json) → Bool
  | [] => true
  | (k, j) :: rest => SessionKeeper.isWritable k && j.isWritable && writableFields rest

end

/-- Whether the text can stand in the head of a request. -/
def isPlainText (s : String) : Bool := s.toList.all (·.toNat < 128)

def Call.request (c : Call) : Except Fault Request := do
  let url ← Url.parse c.address.toList
  let url ← url.resolved
  let url ← c.params.elim (.ok url) url.withQuery
  if isWritable c.address && c.token.all isPlainText && (c.params.map Json.object).all Json.isWritable &&
      c.body.all Json.isWritable then
    .ok ⟨c.method, url, c.accept, c.token, c.body⟩
  else .error .unwritable

/-! ## Answers -/

def RemoteKind.ofStatus (status : Int) : RemoteKind :=
  if 500 ≤ status then .server
  else if status = 401 then .unauthorized
  else if status = 404 then .notFound
  else if status = 409 then .conflict
  else .client

/-- How much of a body a message shows. -/
def shownLength : Nat := 200

namespace Reply

/-- The character set of the body; a body without a known one is in the set of all characters. -/
def charset (r : Reply) : Except Fault Text.Charset := do
  match r.contentType with
  | some t => return (← ContentType.charset t.toList).getD (.utf8 false)
  | none => return .utf8 false

def faultOfText : Text.Charset.Failure → Fault
  | .refused .letters => .wrongKind
  | .refused .octets => .unfitSet
  | .notPlain => .notText
  | f => .unreadable f.message

def text (r : Reply) : Except Fault (List Char) := do
  ((← r.charset).decode r.body).mapError faultOfText

/-- The wording of a failure: the status, and the beginning of the body if there is one. -/
def failureMessage (r : Reply) (operation : String) : Except Fault String := do
  let front := operation ++ " failed with HTTP " ++ String.ofList (Decimal.integerText r.status)
  let text ← if r.body.isEmpty then .ok [] else r.text
  let shown := text.take shownLength
  return if shown.isEmpty then front else front ++ ": " ++ String.ofList shown

/-- The failure that a status from 400 on means, or the fault of a body that cannot be shown. -/
def failure (r : Reply) (operation : String) : Fault :=
  match r.failureMessage operation with
  | .ok m => .call (.ofStatus r.status) m operation (some r.status)
  | .error f => f

def isAccepted (r : Reply) : Bool := r.status < 400

/-- The value in the body; an empty body is null. A body that is nested too deeply is no failure of the call. -/
def value (r : Reply) (operation : String) : Except Fault Json :=
  if r.body.isEmpty then .ok .null
  else match Json.ofOctets r.room r.body with
    | .ok j => .ok j
    | .error .malformed => .error (.call .format (operation ++ " returned a non-JSON body") operation (some r.status))
    | .error .tooDeep => .error .tooDeep

end Reply

/-- The wording for a request after all connections were closed. -/
def closedMessage : String := "Cannot send a request, as the client has been closed."

/-- The wording for an answer to a request whose address names no scheme or no host. -/
def unknownTypeMessage (url : Url) : String :=
  String.ofList ("unknown url type: ".toList ++ Text.quoted url.chars)

/-- The outcome of an answer: an accepted one, or a fault. Where the address names no scheme or no host, no answer
can be taken. -/
def Reply.outcome (url : Url) (operation : String) (r : Reply) : Except Fault Reply :=
  if !url.isAbsolute then .error (.badValue (unknownTypeMessage url) none)
  else if r.isAccepted then .ok r
  else .error (r.failure operation)

/-- The outcome of an exchange: an accepted answer, or a fault. -/
def Exchange.outcome (url : Url) (operation : String) : Exchange → Except Fault Reply
  | .received r => r.outcome url operation
  | .lost m => .error (.call .network (operation ++ " failed: " ++ m) operation none)
  | .undecodable m _ => .error (.undecodable m)
  | .tooManyRedirects m _ => .error (.tooManyRedirects m)
  | .closed => .error (.badState closedMessage)

variable {σ τ : Type} [Surroundings σ τ]

def Call.send (c : Call) : Act σ τ Reply := do
  let r ← Act.ofExcept c.request
  let x ← Act.ofEffect (Effect.exchange r)
  Act.ofExcept (x.outcome r.url c.operation)

/-- Sends the request of a call and reads the value in the answer. -/
def Call.fetch (c : Call) : Act σ τ Json := do
  let r ← c.send
  Act.ofExcept (r.value c.operation)

end SessionKeeper

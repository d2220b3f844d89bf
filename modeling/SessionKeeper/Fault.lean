import SessionKeeper.Json.Value

/-!
# What can go wrong

* `Problem`, `Issue` : what is wrong with one field of an input, and where it is.
* `RemoteKind` : why a call to a remote service failed; `RemoteKind.isRetryable` says which calls
  are worth repeating.
* `Fault` : every cause of failure, with the fault it followed from where there is one.
* `Fault.message` : the wording.
-/

namespace SessionKeeper

/-! ## Fields -/

/-- A step on the way to a part of an input. -/
inductive Place where
  | name (key : String)
  | index (i : Nat)
deriving DecidableEq

/-- What is wrong with a value. -/
inductive Problem where
  | missing
  | notText
  | illFormed
  | notList
  | notObject
  | notMember
  | notFlag
  | unreadableFlag
  | notInteger
  | unreadableInteger
  | fractional
  | endless
  | tooLong
  | notReal
  | unreadableReal
  | notAbove
  | belowLeast
  | notMoment
  | unreadableMoment
  | momentOutOfRange
  | refused (reason : String)
deriving DecidableEq

/-- What is wrong, and where. -/
structure Issue where
  place : List Place
  problem : Problem
deriving DecidableEq

def Issue.under (p : Place) (i : Issue) : Issue := { i with place := p :: i.place }

/-! ## Remote calls -/

/-- Why a call to a remote service failed: by the status of the answer, for want of an answer, or
because the answer cannot be used. -/
inductive RemoteKind where
  | unspecified
  | client
  | unauthorized
  | notFound
  | conflict
  | server
  | network
  | format
deriving DecidableEq

/-- Failures of the server and of the network may pass; all others stay. -/
def RemoteKind.isRetryable : RemoteKind → Bool
  | .server | .network => true
  | _ => false

/-- Whether the service refused the request itself. -/
def RemoteKind.isClient : RemoteKind → Bool
  | .client | .unauthorized | .notFound | .conflict => true
  | _ => false

/-! ## Faults -/

/-- A cause of failure. -/
inductive Fault where
  /-- A call to the registry or the provider failed. -/
  | remote (kind : RemoteKind) (message operation : String) (status : Option Int)
      (issues : Option (List Issue)) (cause : Option Fault)
  /-- The circuit of the key rejects calls. -/
  | circuitOpen (key : String) (cause : Option Fault)
  /-- The provider's credential could not be renewed. -/
  | renewal (message : String) (cause : Option Fault)
  /-- A failure of the keeper that has no kind of its own. -/
  | general (message : String)
  /-- An input has fields that cannot be used. -/
  | invalid (issues : List Issue)
  /-- A value is out of its domain. -/
  | badValue (message : String) (issues : Option (List Issue))
  /-- The operation is not possible now. -/
  | badState (message : String)
  /-- There is nothing at the place. -/
  | missingKey (place : Place)
  /-- A place lies beyond the end. -/
  | outOfRange
  /-- The operation has no meaning for values of this kind. -/
  | wrongKind
  /-- The value has no parts to look into. -/
  | noParts
  /-- A number is too large. -/
  | tooLarge
  /-- The address of a request is not valid. -/
  | badUrl (message : String)
  /-- There is no such file. -/
  | noFile
  /-- The place of a file is a folder. -/
  | folder
  /-- The way to a file leads through another file. -/
  | throughFile
  /-- The name of a file is too long. -/
  | longName
  /-- The file is not text. -/
  | notText
  /-- Octets are no text in their character set. -/
  | unreadable (message : String)
  /-- A character set is named that writes no text. -/
  | unfitSet
  /-- Text cannot be written in octets. -/
  | unwritable
  /-- The document cannot be read. -/
  | badDocument
  /-- An input is nested too deeply. -/
  | tooDeep
  /-- The body of an answer cannot be unpacked. -/
  | undecodable (message : String)
  /-- The answer leads elsewhere without end. -/
  | tooManyRedirects (message : String)
deriving Inhabited

namespace Fault

/-- A remote failure without issues or cause. -/
def call (kind : RemoteKind) (message operation : String) (status : Option Int) : Fault :=
  remote kind message operation status none none

/-- The mark that stands for the list of issues, which travels beside the message. -/
def issuesMark : String := "<details>"

def message : Fault → String
  | remote _ m _ _ _ _ => m
  | circuitOpen key _ => "circuit open for " ++ key
  | renewal m _ => m
  | general m => m
  | invalid _ => issuesMark
  | badValue m _ => m
  | badState m => m
  | missingKey (.name key) => String.ofList (Text.quoted key.toList)
  | missingKey (.index i) => String.ofList (Decimal.naturalText i)
  | badUrl m => m
  | unreadable m => m
  | undecodable m => m
  | tooManyRedirects m => m
  | _ => ""

/-- Whether the fault is one of the keeper's own, which a pass can live with. -/
def isOwn : Fault → Bool
  | remote .. | circuitOpen .. | renewal .. | general .. => true
  | _ => false

/-- Whether the fault is a remote failure that may pass. -/
def isRetryable : Fault → Bool
  | remote kind .. => kind.isRetryable
  | _ => false

end Fault

end SessionKeeper

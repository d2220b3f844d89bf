import SessionKeeper.Fault
import SessionKeeper.Url

/-!
# Base addresses of the services

* `Endpoint.check` : a base address names a scheme and a host.
* `Endpoint.root` : the base address without slashes at its end, and the path of an interface.
-/

namespace SessionKeeper.Endpoint

open Text

/-- The wording for a base address without scheme or host. -/
def missingMessage : String := "api_base must include scheme and host"

/-- Whether the character may stand in a scheme. -/
def isSchemeChar (c : Char) : Bool := c.isAlphanum || c = '+' || c = '-' || c = '.'

/-- Scheme and rest: the text before the first colon, if it begins with a letter and may be a scheme. -/
def takeScheme (cs : List Char) : List Char × List Char :=
  match Decimal.breakAt (· = ':') cs with
  | (front, some rest) =>
    if (front.head?.elim false Char.isAlpha) && front.all isSchemeChar then (front, rest) else ([], cs)
  | (_, none) => ([], cs)

/-- Characters beyond the basic set that are written with one of the marks that part an address. -/
def hiddenMarks : List Nat := [
  0x2047, 0x2048, 0x2049, 0x2100, 0x2101, 0x2105, 0x2106, 0x2A74, 0xFE13, 0xFE16, 0xFE55, 0xFE56,
  0xFE5F, 0xFE6B, 0xFF03, 0xFF0F, 0xFF1A, 0xFF1F, 0xFF20]

/-- Whether the text is a numbered version, a point and more. -/
def isFutureAddress (cs : List Char) : Bool :=
  match Decimal.breakAt (· = '.') (cs.drop 1) with
  | (version, some rest) => !version.isEmpty && version.all Url.isHex && !rest.isEmpty
  | (_, none) => false

/-- A host in brackets is a numeric address of eight groups, or of a later version. -/
def checkBracketed (host : List Char) : Except Fault Unit :=
  if host.head? = some 'v' then
    if isFutureAddress host then .ok () else .error (.badValue "IPvFuture address is invalid" none)
  else if Url.isAddress4 host then
    .error (.badValue "An IPv4 address cannot be in brackets" none)
  else if Url.isAddress6 host then .ok ()
  else
    .error (.badValue
      (String.ofList (quoted host ++ " does not appear to be an IPv4 or IPv6 address".toList)) none)

/-- The fault of an authority with brackets in the wrong place. -/
def misplacedBracket : Fault := .badValue "Invalid IPv6 URL" none

/-- The part of an authority after the last at sign. -/
def afterUser (cs : List Char) : List Char := (cs.reverse.takeWhile (· ≠ '@')).reverse

/-- The host of an authority with brackets. What stands in brackets is all of the host; only a port may
follow it. -/
def bracketedHost (cs : List Char) : Except Fault (List Char) :=
  match Decimal.breakAt (· = '[') (afterUser cs) with
  | ([], some inside) =>
    match Decimal.breakAt (· = ']') inside with
    | (host, some (c :: _)) => if c = ':' then .ok host else .error misplacedBracket
    | (host, _) => .ok host
  | (_, some _) => .error misplacedBracket
  | (rest, none) => .ok (rest.takeWhile (· ≠ ':'))

def checkAuthority (cs : List Char) : Except Fault Unit := do
  if cs.contains '[' != cs.contains ']' then .error misplacedBracket
  if cs.contains '[' then checkBracketed (← bracketedHost cs)
  if cs.any (fun c => hiddenMarks.contains c.toNat) then
    .error (.badValue (String.ofList ("netloc '".toList ++ cs ++
      "' contains invalid characters under NFKC normalization".toList)) none)

def authorityOf (cs : List Char) : List Char :=
  match cs with
  | '/' :: '/' :: rest => rest.takeWhile fun c => c ≠ '/' && c ≠ '?' && c ≠ '#'
  | _ => []

/-- A base address without what stands in front of it and without line breaks and tabs. -/
def cleaned (cs : List Char) : List Char :=
  (cs.dropWhile (·.toNat ≤ 32)).filter fun c => c ≠ '\t' && c ≠ '\r' && c ≠ '\n'

/-- Whether the base address names a scheme and a host. -/
def check (base : String) : Except Fault Unit := do
  let (scheme, rest) := takeScheme (cleaned base.toList)
  let authority := authorityOf rest
  checkAuthority authority
  if scheme.isEmpty || authority.isEmpty then .error (.badValue missingMessage none)

/-- The base address without slashes at its end, and the path of an interface. -/
def root (base path : String) : String := String.ofList (trimEnd (· = '/') base.toList) ++ path

end SessionKeeper.Endpoint

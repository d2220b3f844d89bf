import SessionKeeper.Decimal.Numeral
import SessionKeeper.Fault
import SessionKeeper.Url.Host

/-!
# Addresses of requests

* `Url` : the parts of an address, each in its written form.
* `Url.text`, `Url.path`, `Url.target` : the whole address, its path, its path with the query.
* `Url.parse` : the parts of a text, or why it is no address.
* `Url.resolved` : the address that a request is sent to.
* `Url.withQuery` : the address with another query, its parts read once more.
-/

namespace SessionKeeper

/-- The parts of an address. -/
structure Url where
  scheme : List Char
  user : List Char
  host : List Char
  port : Option Int
  pathChars : List Char
  query : Option (List Char)
  fragment : Option (List Char)
deriving DecidableEq, Inhabited

namespace Url

open Text Decimal

/-! ## Text -/

def authority (u : Url) : List Char :=
  (if u.user.isEmpty then [] else u.user ++ ['@']) ++
    (if u.host.contains ':' then '[' :: (u.host ++ [']']) else u.host) ++
    (match u.port with
    | some p => ':' :: integerText p
    | none => [])

/-- A question mark and the query, if there is one. -/
def queryPart (u : Url) : List Char :=
  match u.query with
  | some q => '?' :: q
  | none => []

def chars (u : Url) : List Char :=
  (if u.scheme.isEmpty then [] else u.scheme ++ [':']) ++
    (if u.authority.isEmpty then [] else '/' :: '/' :: u.authority) ++ u.pathChars ++ u.queryPart ++
    (match u.fragment with
    | some f => '#' :: f
    | none => [])

def text (u : Url) : String := String.ofList u.chars

/-- The path; an empty path is a slash. -/
def rootedPath (u : Url) : List Char := if u.pathChars.isEmpty then ['/'] else u.pathChars

def path (u : Url) : String := String.ofList u.rootedPath

/-- The path with the query. -/
def target (u : Url) : String := String.ofList (u.rootedPath ++ u.queryPart)

/-! ## Parts of a text -/

/-- The text before the first character of a class, and the text from it on. -/
def upTo (p : Char → Bool) (cs : List Char) : List Char × List Char :=
  (cs.takeWhile (fun c => !p c), cs.dropWhile (fun c => !p c))

/-- Whether the text can be the scheme of an address. -/
def isScheme (cs : List Char) : Bool :=
  match cs with
  | [] => true
  | c :: rest => c.isAlpha && rest.all fun d => d.isAlphanum || d = '+' || d = '.' || d = '-'

def takeScheme (cs : List Char) : List Char × List Char :=
  match breakAt (· = ':') cs with
  | (front, some rest) => if isScheme front then (front, rest) else ([], cs)
  | (_, none) => ([], cs)

/-- The text before the last character that is given, and the text after it. -/
def breakAtLast (mark : Char) (cs : List Char) : Option (List Char × List Char) :=
  match breakAt (· = mark) cs.reverse with
  | (back, some front) => some (front.reverse, back.reverse)
  | (_, none) => none

def takeHost (cs : List Char) : List Char × List Char :=
  let named := upTo (fun c => c = ':' || c = '@') cs
  let (host, rest) :=
    if cs.head? = some '[' then
      match breakAtLast ']' cs with
      | some (front, back) => (front ++ [']'], back)
      | none => named
    else named
  (host, if rest.head? = some ':' then rest.drop 1 else rest)

/-! ## Normal form -/

/-- One segment of a path: a single point vanishes, two points take the last segment back, but never
the empty one in front. -/
def pushSegment (done : List (List Char)) (segment : List Char) : List (List Char) :=
  if segment = ['.'] then done
  else if segment = ['.', '.'] then (if done = [] || done = [[]] then done else done.dropLast)
  else done ++ [segment]

def normalPath (cs : List Char) : List Char :=
  let segments := splitBy (· = '/') cs
  if segments.contains ['.'] || segments.contains ['.', '.'] then
    ['/'].intercalate (segments.foldl pushSegment [])
  else cs

/-- The port that a scheme means when none is written. -/
def plainPort? (scheme : List Char) : Option Int :=
  match String.ofList scheme with
  | "ftp" => some 21
  | "http" | "ws" => some 80
  | "https" | "wss" => some 443
  | _ => none

/-- A written port; the port that the scheme means anyway is left out. -/
def readPort (cs : List Char) (scheme : List Char) : Option (Option Int) :=
  if cs.isEmpty then some none
  else (Numeral.integer? cs).map fun p =>
    if plainPort? scheme = some p then none else some p

/-- Whether the character belongs to the basic set and has no visible shape. -/
def isControl (c : Char) : Bool := c.toNat < 32 || c.toNat = 127

def maxLength : Nat := 65536

def controlMessage (c : Char) (position : Nat) : String :=
  String.ofList ("Invalid non-printable ASCII character in URL, ".toList ++ quoted [c] ++
    " at position ".toList ++ naturalText position ++ ['.'])

/-- The fault of an address with an unusable part. -/
def refused (front : String) (what : List Char) : Fault :=
  .badUrl (String.ofList (front.toList ++ quoted what))

/-- The fault of an address with a host that is none. -/
def refusedHost (host : List Char) : Fault :=
  if looksNumeric host then refused "Invalid IPv4 address: " host
  else if host.head? = some '[' then refused "Invalid IPv6 address: " host
  else refused "Invalid IDNA hostname: " host

/-- The parts of a text, as they are written there. -/
structure Parts where
  scheme : List Char
  authority : List Char
  path : List Char
  query : Option (List Char)
  fragment : Option (List Char)

/-- The text after two slashes up to the path, and the rest. -/
def takeAuthority : List Char → List Char × List Char
  | '/' :: '/' :: rest => upTo (fun c => c = '/' || c = '?' || c = '#') rest
  | cs => ([], cs)

/-- The text after a mark, up to a character of a class, and the rest. -/
def takeMarked (mark : Char) (stop : Char → Bool) : List Char → Option (List Char) × List Char
  | [] => (none, [])
  | c :: rest =>
    if c = mark then (some (upTo stop rest).1, (upTo stop rest).2) else (none, c :: rest)

/-- Scheme, authority, path, query and fragment of a text. -/
def split (cs : List Char) : Parts :=
  let (scheme, rest) := takeScheme cs
  let (authority, rest) := takeAuthority rest
  let (path, rest) := upTo (fun c => c = '?' || c = '#') rest
  let (query, rest) := takeMarked '?' (· = '#') rest
  ⟨scheme, authority, path, query, (takeMarked '#' (fun _ => false) rest).1⟩

/-- A path beside an authority begins with a slash; a text that has neither scheme nor authority does
not look as if it had. -/
def checkPath (hasScheme hasAuthority : Bool) (path : List Char) : Except Fault Unit :=
  if hasAuthority && !path.isEmpty && path.head? ≠ some '/' then
    .error (.badUrl "For absolute URLs, path must be empty or begin with '/'")
  else if !hasScheme && !hasAuthority && path.take 2 == ['/', '/'] then
    .error (.badUrl "Relative URLs cannot have a path starting with '//'")
  else if !hasScheme && !hasAuthority && path.head? = some ':' then
    .error (.badUrl "Relative URLs cannot have a path starting with ':'")
  else .ok ()

def Parts.normal (p : Parts) : Except Fault Url := do
  let (user, hostAndPort) := (breakAtLast '@' p.authority).getD ([], p.authority)
  let (host, port) := takeHost hostAndPort
  let user := escape inUser user
  let normalHost ← (normalHost? host).elim (.error (refusedHost host)) .ok
  let port ← (readPort port p.scheme).elim (.error (refused "Invalid port: " port)) .ok
  let hasAuthority := !user.isEmpty || !normalHost.isEmpty || port.isSome
  checkPath (!p.scheme.isEmpty) hasAuthority p.path
  let path := if !p.scheme.isEmpty || hasAuthority then normalPath p.path else p.path
  return {
    scheme := p.scheme.map Char.toLower
    user := user
    host := normalHost
    port := port
    pathChars := escape inPath path
    query := p.query.map (escape inQuery)
    fragment := p.fragment.map (escape inFragment) }

/-- Whether the text is short enough and free of control characters. -/
def checkText (cs : List Char) : Except Fault Unit :=
  if maxLength < cs.length then .error (.badUrl "URL too long")
  else match upTo isControl cs with
    | (front, c :: _) => .error (.badUrl (controlMessage c front.length))
    | (_, []) => .ok ()

/-- The parts of an address. -/
def parse (cs : List Char) : Except Fault Url := do
  checkText cs
  (split cs).normal

/-! ## Requests -/

/-- Whether the address names a scheme and a host. -/
def isAbsolute (u : Url) : Bool := !u.scheme.isEmpty && !u.host.isEmpty

def formValue : Json → List Char
  | .bool true => "true".toList
  | .bool false => "false".toList
  | .null => []
  | j => j.plain.toList

/-- One field of a form; a list repeats the key. -/
def formField (field : String × Json) : List (List Char) :=
  let values := match field.2 with
    | .list items => items
    | j => [j]
  values.map fun v => formText field.1.toList ++ '=' :: formText (formValue v)

def formChars (fields : List (String × Json)) : List Char :=
  ['&'].intercalate (fields.flatMap formField)

/-- The parts of an address as they are written, by their names. -/
def Parts.named (p : Parts) : List (String × List Char) := [
  ("scheme", p.scheme), ("authority", p.authority), ("path", p.path), ("query", p.query.getD []),
  ("fragment", p.fragment.getD [])]

def longMessage (part : String) : String := "URL component '" ++ part ++ "' too long"

/-- The address made of parts, if each of them is short enough. -/
def ofParts (p : Parts) : Except Fault Url :=
  match p.named.find? fun part => maxLength < part.2.length with
  | some (part, _) => .error (.badUrl (longMessage part))
  | none => p.normal

/-- The address with the fields as its query; no fields, no query. -/
def withQuery (u : Url) (fields : List (String × Json)) : Except Fault Url :=
  ofParts ⟨u.scheme, u.authority, u.pathChars,
    if fields.isEmpty then none else some (formChars fields), u.fragment⟩

/-- The address that a request is sent to: one without scheme or host keeps its path and query only. -/
def resolved (u : Url) : Except Fault Url :=
  if u.isAbsolute then .ok u
  else ofParts ⟨[], [], '/' :: u.rootedPath.dropWhile (· = '/'), u.query, none⟩

end Url

end SessionKeeper

import SessionKeeper.Fault
import SessionKeeper.Yaml.Kind
import SessionKeeper.Yaml.Token

/-!
# Tokens to nodes

A node may be named by an anchor and stand in several places, also inside itself; so nodes are kept in
a list and refer to each other by their numbers.

* `Node`, `Graph` : the nodes of a document.
* `Reader` : the tokens that are left and the nodes so far.
* `Reader.node` : a node and what lies in it.
* `Graph.ofTokens` : the nodes of the one document of a text.
-/

namespace SessionKeeper.Yaml

/-- A node: a scalar, a sequence or a mapping, with its kind; parts are given by their numbers. -/
inductive Node where
  | scalar (kind : Kind) (text : String)
  | sequence (kind : Kind) (items : List Nat)
  | mapping (kind : Kind) (entries : List (Nat × Nat))
deriving Inhabited

def Node.kind : Node → Kind
  | scalar k _ => k
  | sequence k _ => k
  | mapping k _ => k

/-- The nodes of a document. -/
abbrev Graph := Array Node

/-- What is left of the tokens, and the nodes, anchors and abbreviations so far. -/
structure Reader where
  tokens : List Token
  graph : Graph
  anchors : List (String × Nat)
  handles : List (String × String)

/-- A step of reading. -/
abbrev Reading := StateT Reader (Except Fault)

namespace Reader

def refuse {α : Type} : Reading α := throw Fault.badDocument

def next? : Reading (Option Token) := return (← get).tokens.head?

def isNext (ts : List Token) : Reading Bool := return (← next?).any ts.contains

def pass : Reading Unit := modify fun r => { r with tokens := r.tokens.drop 1 }

/-- Passes the next token if it is this one; tells whether it was. -/
def passIf (t : Token) : Reading Bool := do
  if ← isNext [t] then
    pass
    return true
  return false

def demand (t : Token) : Reading Unit := do
  if !(← passIf t) then refuse

/-! ## Nodes -/

def add (anchor : Option String) (n : Node) : Reading Nat := do
  let r ← get
  let id := r.graph.size
  match anchor with
  | some a =>
    if r.anchors.any (·.1 == a) then refuse
    set { r with graph := r.graph.push n, anchors := (a, id) :: r.anchors }
  | none => set { r with graph := r.graph.push n }
  return id

def replace (id : Nat) (n : Node) : Reading Unit :=
  modify fun r => { r with graph := r.graph.set! id n }

/-- The node that an alias names. -/
def aliased (name : String) : Reading Nat := do
  match (← get).anchors.find? (·.1 == name) with
  | some (_, id) => return id
  | none => refuse

def nothing : Reading Nat := add none (.scalar .null "")

/-- The abbreviations that need no directive. -/
def standardHandles : List (String × String) := [("!", "!"), ("!!", Kind.standard)]

def tagOf (t : TagName) : Reading String := do
  match t.handle with
  | none => return t.suffix
  | some h =>
    match (← get).handles.find? (·.1 == h) with
    | some (_, full) => return full ++ t.suffix
    | none => refuse

def anchor? : Reading (Option String) := do
  match ← next? with
  | some (.anchor a) => do
    pass
    return some a
  | _ => return none

def tag? : Reading (Option String) := do
  match ← next? with
  | some (.tag t) => do
    pass
    return some (← tagOf t)
  | _ => return none

/-- The anchor and the tag in front of a node, in any order. -/
def properties : Reading (Option String × Option String) := do
  match ← anchor? with
  | some a => return (some a, ← tag?)
  | none => do
    let t ← tag?
    return (← if t.isSome then anchor? else pure none, t)

def plainTag : String := "!"

def scalarKind (tag : Option String) (isPlain : Bool) (text : String) : Kind :=
  match tag with
  | none => if isPlain then .ofPlain text else .text
  | some t => if t = plainTag then .ofPlain text else .ofTag t

def collectionKind (tag : Option String) (base : Kind) : Kind :=
  match tag with
  | none => base
  | some t => if t = plainTag then base else .ofTag t

/-- Where a node stands. -/
inductive Spot where
  /-- Inside brackets. -/
  | flow
  /-- In a block. -/
  | block
  /-- In a block mapping, where the items of a sequence need not lie deeper. -/
  | entry
deriving DecidableEq

/-- Reads the items of a node that was just begun. -/
def fill {α : Type} (anchor : Option String) (wrap : List α → Node) (items : Reading (List α)) :
    Reading Nat := do
  let id ← add anchor (wrap [])
  let xs ← items
  replace id (wrap xs)
  return id

mutual

def node : Nat → Spot → Reading Nat
  | 0, _ => refuse
  | n + 1, spot => do
    if let some (.alias name) ← next? then
      pass
      return ← aliased name
    let (anchor, tag) ← properties
    let sequence := Node.sequence (collectionKind tag .sequence)
    let mapping := Node.mapping (collectionKind tag .mapping)
    match ← next? with
    | some .blockEntry =>
      if spot = .entry then fill anchor sequence (loose n)
      else bare anchor tag
    | some (.scalar text isPlain) => do
      pass
      add anchor (.scalar (scalarKind tag isPlain text) text)
    | some .flowSequence => do
      pass
      fill anchor sequence (flowItems n true)
    | some .flowMapping => do
      pass
      fill anchor mapping (flowEntries n true)
    | some .blockSequence =>
      if spot = .flow then bare anchor tag
      else do
        pass
        fill anchor sequence (items n)
    | some .blockMapping =>
      if spot = .flow then bare anchor tag
      else do
        pass
        fill anchor mapping (entries n)
    | _ => bare anchor tag

/-- A node of which nothing but its anchor or tag is written. -/
def bare (anchor tag : Option String) : Reading Nat :=
  if anchor.isSome || tag.isSome then add anchor (.scalar (scalarKind tag true "") "") else refuse

/-- A node, or nothing before one of these tokens. -/
def nodeUnless (ends : List Token) : Nat → Spot → Reading Nat
  | 0, _ => refuse
  | n + 1, spot => do if ← isNext ends then nothing else node n spot

def items : Nat → Reading (List Nat)
  | 0 => refuse
  | n + 1 => do
    if ← passIf .blockEntry then
      let x ← nodeUnless [.blockEntry, .blockEnd] n .block
      return x :: (← items n)
    demand .blockEnd
    return []

/-- The items of a sequence that does not lie deeper than the mapping around it. -/
def loose : Nat → Reading (List Nat)
  | 0 => refuse
  | n + 1 => do
    if ← passIf .blockEntry then
      let x ← nodeUnless [.blockEntry, .key, .value, .blockEnd] n .block
      return x :: (← loose n)
    return []

def entries : Nat → Reading (List (Nat × Nat))
  | 0 => refuse
  | n + 1 => do
    if ← passIf .key then
      let k ← nodeUnless [.key, .value, .blockEnd] n .entry
      let v ← valueOf [.key, .value, .blockEnd] n .entry
      return (k, v) :: (← entries n)
    demand .blockEnd
    return []

/-- The value after a key, or nothing. -/
def valueOf (ends : List Token) : Nat → Spot → Reading Nat
  | 0, _ => refuse
  | n + 1, spot => do if ← passIf .value then nodeUnless ends n spot else nothing

/-- The items between brackets; all but the first follow a comma. -/
def flowItems : Nat → Bool → Reading (List Nat)
  | 0, _ => refuse
  | n + 1, isFirst => do
    if ← passIf .flowSequenceEnd then return []
    if !isFirst then demand .flowEntry
    if ← passIf .key then
      let x ← fill none (Node.mapping .mapping) (pair n)
      return x :: (← flowItems n false)
    if ← passIf .flowSequenceEnd then return []
    let x ← node n .flow
    return x :: (← flowItems n false)

/-- A single entry as an item between brackets. -/
def pair : Nat → Reading (List (Nat × Nat))
  | 0 => refuse
  | n + 1 => do
    let k ← nodeUnless [.value, .flowEntry, .flowSequenceEnd] n .flow
    let v ← valueOf [.flowEntry, .flowSequenceEnd] n .flow
    return [(k, v)]

/-- The entries between braces; all but the first follow a comma. -/
def flowEntries : Nat → Bool → Reading (List (Nat × Nat))
  | 0, _ => refuse
  | n + 1, isFirst => do
    if ← passIf .flowMappingEnd then return []
    if !isFirst then demand .flowEntry
    if ← passIf .key then
      let k ← nodeUnless [.value, .flowEntry, .flowMappingEnd] n .flow
      let v ← valueOf [.flowEntry, .flowMappingEnd] n .flow
      return (k, v) :: (← flowEntries n false)
    if ← passIf .flowMappingEnd then return []
    let k ← node n .flow
    let v ← nothing
    return (k, v) :: (← flowEntries n false)

end

/-! ## Documents -/

def directives (version : Option Nat) : Nat → Reading Unit
  | 0 => refuse
  | n + 1 => do
    match ← next? with
    | some (.directive d) => do
      pass
      match d with
      | .version major => do
        if version.isSome || major ≠ 1 then refuse
        directives (some major) n
      | .shorthand handle full => do
        let r ← get
        if r.handles.any (·.1 == handle) then refuse
        set { r with handles := (handle, full) :: r.handles }
        directives version n
      | .other => directives version n
    | _ => modify fun r => { r with handles := r.handles ++ standardHandles }

/-- The steps that suffice to read the tokens. -/
def fuel : Reading Nat := return 4 * (← get).tokens.length + 8

def explicitDocument : Reading Nat := do
  directives none (← fuel)
  demand .documentStart
  match ← next? with
  | none => nothing
  | some (.directive _) => nothing
  | some .documentStart => nothing
  | some .documentEnd => nothing
  | _ => node (← fuel) .block

/-- A document that begins with its first node. -/
def implicitDocument : Reading Nat := do
  modify fun r => { r with handles := standardHandles }
  node (← fuel) .block

/-- The one document of a text, if there is one. -/
def document? : Reading (Option Nat) := do
  match ← next? with
  | none => return none
  | some t => do
    let isExplicit := match t with
      | .directive _ => true
      | .documentStart => true
      | _ => false
    let root ← if isExplicit then explicitDocument else implicitDocument
    modify fun r => { r with tokens := r.tokens.dropWhile (· = .documentEnd) }
    if (← get).tokens.isEmpty then return some root else refuse

end Reader

/-- The nodes of the one document of a text, and the number of its root. -/
def Graph.ofTokens (ts : List Token) : Except Fault (Option Nat × Graph) := do
  let (root, r) ← Reader.document?.run ⟨ts, #[], [], []⟩
  return (root, r.graph)

end SessionKeeper.Yaml

import SessionKeeper.Text.Printable
import SessionKeeper.Yaml.Atom
import SessionKeeper.Yaml.Graph
import SessionKeeper.Yaml.Token.Lexer

/-!
# Documents

* `Graph.flatten` : entries that a mapping takes over from others.
* `Graph.check` : whether every node has a value of its kind, level by level from the root.
* `Document`, `Document.read` : the nodes of a text that all have a value.
* `Document.view` : what a node stands for.
-/

namespace SessionKeeper.Yaml

namespace Graph

def node (g : Graph) (id : Nat) : Node := g.getD id (.scalar .null "")

def kind (g : Graph) (id : Nat) : Kind := (g.node id).kind

def entries (g : Graph) (id : Nat) : List (Nat × Nat) :=
  match g.node id with
  | .mapping _ es => es
  | _ => []

def setEntries (g : Graph) (id : Nat) (es : List (Nat × Nat)) : Graph :=
  match g.node id with
  | .mapping k _ => g.set! id (.mapping k es)
  | _ => g

def setText (g : Graph) (id : Nat) : Graph :=
  match g.node id with
  | .scalar _ s => g.set! id (.scalar .text s)
  | .sequence _ xs => g.set! id (.sequence .text xs)
  | .mapping _ es => g.set! id (.mapping .text es)

/-! ## Taking over entries -/

mutual

/-- Resolves the entries of a mapping from the one at `index` on; `taken` was taken over so far. What
is taken over comes first, so that the mapping's own entries win. -/
def flattenFrom (id : Nat) : Nat → Nat → List (Nat × Nat) → Graph → Except Fault Graph
  | 0, _, _, _ => .error .badDocument
  | n + 1, index, taken, g =>
    match (g.entries id)[index]? with
    | none => .ok (if taken.isEmpty then g else g.setEntries id (taken ++ g.entries id))
    | some (k, v) =>
      match g.kind k with
      | .merge => do
        let g := g.setEntries id ((g.entries id).eraseIdx index)
        match g.node v with
        | .mapping .. => do
          let g ← flattenFrom v n 0 [] g
          flattenFrom id n index (taken ++ g.entries v) g
        | .sequence _ items => do
          let (more, g) ← flattenAll n items g
          flattenFrom id n index (taken ++ more) g
        | .scalar .. => .error .badDocument
      | .default => flattenFrom id n (index + 1) taken (g.setText k)
      | _ => flattenFrom id n (index + 1) taken g

/-- The entries of several mappings, those of the last mapping first. -/
def flattenAll : Nat → List Nat → Graph → Except Fault (List (Nat × Nat) × Graph)
  | 0, _, _ => .error .badDocument
  | _, [], g => .ok ([], g)
  | n + 1, x :: rest, g =>
    match g.node x with
    | .mapping .. => do
      let g ← flattenFrom x n 0 [] g
      let own := g.entries x
      let (others, g) ← flattenAll n rest g
      return (others ++ own, g)
    | _ => .error .badDocument

end

/-- How many parts the nodes have. -/
def size (g : Graph) : Nat :=
  g.foldl (fun n x => n + 1 + match x with
    | .scalar .. => 0
    | .sequence _ items => items.length
    | .mapping _ es => es.length) 0

/-- Resolves the entries that a mapping takes over. -/
def flatten (g : Graph) (id : Nat) : Except Fault Graph := flattenFrom id (4 * g.size + 8) 0 [] g

/-! ## Values of nodes -/

/-- The text of a scalar; a mapping may stand for the scalar that it names as its default. -/
def scalarText (g : Graph) : Nat → Nat → Except Fault String
  | 0, _ => .error .tooDeep
  | n + 1, id =>
    match g.node id with
    | .scalar _ s => .ok s
    | .mapping _ es =>
      match es.find? fun e => g.kind e.1 = .default with
      | some (_, v) => scalarText g n v
      | none => .error .badDocument
    | .sequence .. => .error .badDocument

def isCollectionKind : Kind → Bool
  | .sequence | .pairs | .orderedMapping | .mapping | .set => true
  | _ => false

/-- The value of a node that is no collection; a date must be written as a scalar. -/
def atom (g : Graph) (id : Nat) : Except Fault Atom := do
  let s ← g.scalarText (g.size + 1) id
  match g.node id with
  | .mapping .stamp _ => .error .wrongKind
  | n => Atom.read n.kind s

/-- Where the check stands: the nodes, those that were met, and the collections that are to be looked
into, in the order in which they were met. -/
structure Survey where
  graph : Graph
  met : List Nat
  waiting : List Nat

/-- Meets a node: a scalar has to have a value, a collection is looked into later. -/
def Survey.meet (v : Survey) (id : Nat) : Except Fault Survey :=
  if v.met.contains id then .ok v
  else
    let k := v.graph.kind id
    let met := id :: v.met
    if isCollectionKind k then .ok { v with met := met, waiting := v.waiting ++ [id] }
    else do
      let _ ← v.graph.atom id
      return { v with met := met }

/-- Meets a key, which must be no collection, and its value. -/
def Survey.meetEntry (v : Survey) (e : Nat × Nat) : Except Fault Survey := do
  let v ← v.meet e.1
  if isCollectionKind (v.graph.kind e.1) then .error .badDocument
  v.meet e.2

def Survey.meetPair (v : Survey) (id : Nat) : Except Fault Survey :=
  match v.graph.node id with
  | .mapping _ [(key, value)] => do
    let v ← v.meet key
    v.meet value
  | _ => .error .badDocument

def Survey.enter (v : Survey) (id : Nat) : Except Fault Survey :=
  match v.graph.kind id, v.graph.node id with
  | .sequence, .sequence _ items => items.foldlM Survey.meet v
  | .pairs, .sequence _ items => items.foldlM Survey.meetPair v
  | .orderedMapping, .sequence _ items => items.foldlM Survey.meetPair v
  | .mapping, .mapping .. => do
    let g ← v.graph.flatten id
    (g.entries id).foldlM Survey.meetEntry { v with graph := g }
  | .set, .mapping .. => do
    let g ← v.graph.flatten id
    (g.entries id).foldlM Survey.meetEntry { v with graph := g }
  | _, _ => .error .badDocument

/-- Looks into the collections that wait. -/
def Survey.run : Nat → Survey → Except Fault Graph
  | 0, v => .ok v.graph
  | n + 1, v =>
    match v.waiting with
    | [] => .ok v.graph
    | id :: rest => do
      let v ← Survey.enter { v with waiting := rest } id
      Survey.run n v

/-- Whether every node below the root has a value of its kind. -/
def check (g : Graph) (root : Nat) : Except Fault Graph := do
  let v ← Survey.meet ⟨g, [], []⟩ root
  Survey.run (g.size + 1) v

end Graph

/-! ## Documents -/

/-- The nodes of a text, all of which have a value, and the number of the root. -/
structure Document where
  graph : Graph
  root : Nat

namespace Document

/-- Whether the character may stand in a document. -/
def isAllowed (c : Char) : Bool :=
  let n := c.toNat
  n = 9 || n = 10 || n = 13 || (0x20 ≤ n && n ≤ 0x7E) || n = 0x85 || (0xA0 ≤ n && n ≤ 0xD7FF) ||
    (0xE000 ≤ n && n ≤ 0xFFFD) || 0x10000 ≤ n

/-- The text with every end of a line written the same way. -/
def withPlainBreaks : List Char → List Char
  | '\r' :: '\n' :: rest => '\n' :: withPlainBreaks rest
  | '\r' :: rest => '\n' :: withPlainBreaks rest
  | c :: rest => c :: withPlainBreaks rest
  | [] => []

/-- The document in a text; nothing when the text holds none. -/
def read (cs : List Char) : Except Fault (Option Document) := do
  let cs := withPlainBreaks cs
  if !cs.all isAllowed then .error .badDocument
  let (root, g) ← Graph.ofTokens (← Token.ofText cs)
  match root with
  | none => return none
  | some root => return some ⟨← g.check root, root⟩

/-! ## Views -/

/-- The value of a node that is no collection. -/
def atom? (d : Document) (id : Nat) : Option Atom := (d.graph.atom id).toOption

/-- What a node stands for. -/
inductive View where
  | atom (a : Atom)
  | sequence (items : List Nat)
  /-- Some number of pairs. -/
  | pairs (count : Nat)
  | mapping (entries : List (Nat × Nat))
  | set (members : List Nat)

/-- Whether two nodes have the same value, which is no collection. -/
def areSame (d : Document) (x y : Nat) : Bool :=
  match d.atom? x, d.atom? y with
  | some a, some b => a.same b
  | _, _ => false

/-- The nodes without those whose value came before. -/
def distinct (d : Document) (ids : List Nat) : List Nat :=
  ids.foldl (fun seen id => if seen.any (d.areSame id) then seen else seen ++ [id]) []

/-- What a node stands for. -/
def view (d : Document) (id : Nat) : View :=
  match d.graph.node id with
  | .sequence .sequence items => .sequence items
  | .sequence .pairs items => .pairs items.length
  | .sequence .orderedMapping items => .pairs items.length
  | .mapping .mapping es => .mapping es
  | .mapping .set es => .set (d.distinct (es.map (·.1)))
  | _ => .atom ((d.atom? id).getD .null)

def entries? (d : Document) (id : Nat) : Option (List (Nat × Nat)) :=
  match d.view id with
  | .mapping es => some es
  | _ => none

def keyText? (d : Document) (id : Nat) : Option String :=
  match d.atom? id with
  | some (.text s) => some s
  | _ => none

def entry? (d : Document) (es : List (Nat × Nat)) (key : String) : Option Nat :=
  (es.reverse.find? fun e => d.keyText? e.1 == some key).map (·.2)

/-- Whether the value of a node is neither null nor false nor zero nor empty. -/
def isFilled (d : Document) (id : Nat) : Bool :=
  match d.view id with
  | .atom a => a.isFilled
  | .sequence items => !items.isEmpty
  | .pairs count => count ≠ 0
  | .mapping es => !es.isEmpty
  | .set members => !members.isEmpty

end Document

end SessionKeeper.Yaml

import Kumihan.Yaml.Graph

/-!
# From nodes to values

A node is given its value once, whatever number of times it is named.  Scalars get
theirs when they are met; lists and mappings are put in a queue and looked into one
after the other, so that what lies deeper is looked at later.  Only then is the graph
unrolled into a tree, which names a list or mapping around a place without going
into it again.

## Main definitions

* `Built` — what is known of a node's value.
* `entriesOf` — the entries of a mapping, with those it takes over from others.
* `Graph.value` — the value of a document.
* `load`, `loadFile` — the value of a text and of a file.
-/

namespace Kumihan.Yaml

open Data (Value)
open Text (Letter)

/-- What is known of a node's value. -/
inductive Built
  /-- The value. -/
  | scalar (v : Value)
  /-- The nodes of a list. -/
  | list (items : List Nat)
  /-- The nodes of the pairs of a list. -/
  | pairs (items : List (Nat × Nat))
  /-- The members of a set. -/
  | set (keys : List Value)
  /-- The keys of a mapping and the nodes of their values. -/
  | mapping (entries : List (Value × Nat))
  deriving Repr, Inhabited

namespace Graph

/-- The node at a place. -/
def at? (graph : Graph) (place : Nat) : Except Fault Node :=
  match graph[place]? with
  | some node => .ok node
  | none => .error (.malformed .missingNode)

/-- The text of a node.  A mapping stands for the value of its key `=`, which may be a mapping that
does so too.  There are no more of them than nodes, unless they go round in a circle. -/
def text (graph : Graph) : Nat → Nat → Except Fault (List Letter)
  | 0, _ => .error (.unreadable .endless)
  | n + 1, place => do
    match (← graph.at? place).content with
    | .scalar text => return text
    | .sequence _ => throw (.malformed .wrongShape)
    | .mapping entries =>
      match entries.find? fun (key, _) => graph[key]?.any (·.tag == .value) with
      | some (_, v) => text graph n v
      | none => throw (.malformed .wrongShape)

/-- The text of a node that is to be a day.  A mapping cannot stand for one. -/
def dateText (graph : Graph) (place : Nat) : Except Fault (List Letter) := do
  let text ← graph.text (graph.size + 1) place
  match (← graph.at? place).content with
  | .mapping _ => throw (.unreadable .mappingAsDate)
  | _ => return text

/-- The value of a scalar, or none for a list or mapping. -/
def scalar? (graph : Graph) (place : Nat) (tag : Tag) : Except Fault (Option Value) := do
  let text := graph.text (graph.size + 1) place
  let read {α : Type} (how : List Letter → Scalar α) (text : Except Fault (List Letter)) :
      Except Fault α := text >>= fun ls => (how ls).mapError .unreadable
  match tag with
  | .null => return some (← text.map fun _ => .null)
  | .bool => return some (.bool (← read truthValue text))
  | .int => return some (.int (← read integer text))
  | .float => return some (.float (← read float text))
  | .str => return some (.ofLetters (← text))
  | .binary =>
    match binary? (← text) with
    | some bs => return some (.bytes bs)
    | none => throw (.malformed .badBinary)
  | .timestamp => return some (← read Timestamp.ofText (graph.dateText place))
  | .seq | .map | .set | .pairs => return none
  | .merge => throw (.malformed (.unknownTag (Tag.common ++ "merge")))
  | .value => throw (.malformed (.unknownTag (Tag.common ++ "value")))
  | .other name => throw (.malformed (.unknownTag name))

/-- The nodes of a list. -/
def items (graph : Graph) (place : Nat) : Except Fault (List Nat) := do
  match (← graph.at? place).content with
  | .sequence items => return items
  | _ => throw (.malformed .wrongShape)

/-- The node is the key under which a mapping takes over entries. -/
def isMergeKey (graph : Graph) (place : Nat) : Bool := graph[place]?.any (·.tag == .merge)

/-- The entries of the mappings that a mapping names for taking over, if `entries` gives
those of one mapping.  Of several mappings, the first has the last word. -/
def merged (graph : Graph) (entries : Nat → Except Fault (List (Nat × Nat))) (source : Nat) :
    Except Fault (List (Nat × Nat)) := do
  let entriesOf (place : Nat) : Except Fault (List (Nat × Nat)) := do
    match (← graph.at? place).content with
    | .mapping _ => entries place
    | _ => throw (.malformed .badMerge)
  match (← graph.at? source).content with
  | .sequence items => return (← items.mapM entriesOf).reverse.flatten
  | _ => entriesOf source

/-- The entries of a mapping behind those that it takes over from others.  `path` are
the mappings that are being looked into, which take over nothing again. -/
def entriesOf (graph : Graph) : Nat → (path : List Nat) → Nat → Except Fault (List (Nat × Nat))
  | 0, _, _ => .ok []
  | n + 1, path, place => do
    match (← graph.at? place).content with
    | .mapping entries =>
      let own := entries.filter fun (key, _) => !graph.isMergeKey key
      if path.elem place then return own
      let sources := entries.filter fun (key, _) => graph.isMergeKey key
      let more ← sources.mapM fun (_, source) =>
        graph.merged (entriesOf graph n (place :: path)) source
      return more.flatten ++ own
    | _ => throw (.malformed .wrongShape)

end Graph

/-! ### Giving values -/

/-- What has been found out about a document. -/
structure Builder where
  /-- What is known of each node. -/
  built : Array (Option Built)
  /-- The lists and mappings that are to be looked into. -/
  queue : List Nat := []

/-- Steps of a builder. -/
abbrev Build := StateT Builder (Except Fault)

namespace Build

/-- What is known of a node. -/
def known (place : Nat) : Build (Option Built) := return (← get).built[place]?.join

/-- Note what is known of a node. -/
def note (place : Nat) (what : Built) : Build Unit :=
  modify fun s => { s with built := s.built.set! place (some what) }

/-- Give a node its value, or put it in the queue. -/
def meet (graph : Graph) (place : Nat) (tag : Tag) : Build Unit := do
  if (← known place).isNone then
    match ← show Except Fault _ from graph.scalar? place tag with
    | some v => note place (.scalar v)
    | none =>
      note place (.list [])
      modify fun s => { s with queue := s.queue ++ [place] }

/-- Give a node its value by its own tag. -/
def visit (graph : Graph) (place : Nat) : Build Unit := do
  meet graph place (← show Except Fault _ from graph.at? place).tag

/-- The value of a key, which is no list or mapping.  The key `=` is a text. -/
def key (graph : Graph) (place : Nat) : Build Value := do
  let tag := (← show Except Fault _ from graph.at? place).tag
  meet graph place (if tag = .value then .str else tag)
  match ← known place with
  | some (.scalar v) => return v
  | _ => throw (.malformed .collectionAsKey)

/-- The node that a key is told by, where its value does not tell: what is no number differs from
itself, so a key of this kind is only the same as that of the same node.  The nodes with the word
for it count as one, for which no node's place stands. -/
def origin (graph : Graph) (place : Nat) : Nat :=
  match graph[place]?.map (·.tag), graph.text (graph.size + 1) place with
  | some .float, .ok text => if isNanWord text then graph.size else place
  | _, _ => place

/-- Two keys with their nodes are the same. -/
def sameKey (graph : Graph) (k k' : Value × Nat) : Bool :=
  origin graph k.2 == origin graph k'.2 || Value.sameKey k.1 k'.1

/-- The keys of a mapping with the nodes of their values. -/
def entries (graph : Graph) (place : Nat) : Build (List (Value × Nat)) := do
  let all ← show Except Fault _ from graph.entriesOf (graph.size + 1) [] place
  let known ← all.foldlM
    (fun known (k, v) => do
      let value ← key graph k
      visit graph v
      return Data.Value.setEntryBy (sameKey graph) (value, k) v known)
    []
  return known.map fun ((value, _), v) => (value, v)

/-- The nodes of a pair, which is written as a mapping with one entry. -/
def pair (graph : Graph) (place : Nat) : Build (Nat × Nat) := do
  match (← show Except Fault _ from graph.at? place).content with
  | .mapping [(k, v)] =>
    visit graph k
    visit graph v
    return (k, v)
  | _ => throw (.malformed .wrongShape)

/-- Look into a list or mapping. -/
def lookInto (graph : Graph) (place : Nat) : Build Unit := do
  match (← show Except Fault _ from graph.at? place).tag with
  | .map => note place (.mapping (← entries graph place))
  | .set => note place (.set ((← entries graph place).map (·.1)))
  | .pairs =>
    let items ← show Except Fault _ from graph.items place
    note place (.pairs (← items.mapM (pair graph)))
  | _ =>
    let items ← show Except Fault _ from graph.items place
    items.forM (visit graph)
    note place (.list items)

/-- Look into all that is in the queue, for at most `n` turns. -/
def drain (graph : Graph) : Nat → Build Unit
  | 0 => return
  | n + 1 => do
    match (← get).queue with
    | [] => return
    | place :: queue =>
      modify fun s => { s with queue }
      lookInto graph place
      drain graph n

end Build

/-! ### Unrolling -/

/-- The value of a node.  `path` are the lists and mappings around it; there are never
more of them than nodes, which bounds the turns. -/
def unrolled (built : Array (Option Built)) : Nat → (path : List Nat) → Nat → Value
  | 0, _, _ => .null
  | n + 1, path, place =>
    let inner := unrolled built n (place :: path)
    match built[place]?.join with
    | none => .null
    | some (.scalar v) => v
    | some (.set keys) => .setOf keys
    | some (.list items) =>
      if path.elem place then .listLoop else .list (items.map inner)
    | some (.pairs items) =>
      if path.elem place then .listLoop
      else .list (items.map fun (a, b) => .pair (inner a) (inner b))
    | some (.mapping entries) =>
      if path.elem place then .mappingLoop
      else .mapping (entries.map fun (k, v) => (k, inner v))

/-- The value of a document.  Its fields are unrolled each on its own: a field that
names the whole document holds it once more. -/
def Graph.value (graph : Graph) (root : Nat) : Except Fault Value := do
  let build : Build Unit := do
    Build.visit graph root
    Build.drain graph graph.size
  let (_, s) ← build.run { built := Array.replicate graph.size none }
  let value := unrolled s.built (graph.size + 1) []
  match s.built[root]?.join with
  | some (.mapping entries) => return .mapping (entries.map fun (k, v) => (k, value v))
  | _ => return value root

/-- The value of a text whose line endings are line feeds: nothing for one without a
document. -/
def load (source : Source) : Except Fault Value := do
  let (tokens, fault) := scan source
  match ← compose tokens fault with
  | (none, _) => return .null
  | (some root, graph) => graph.value root

/-- The value of a file. -/
def loadFile (bs : Text.Bytes) : Except Fault Value := load (.ofFile bs)

end Kumihan.Yaml

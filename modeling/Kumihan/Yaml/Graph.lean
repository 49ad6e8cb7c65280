import Kumihan.Yaml.Scanner
import Kumihan.Yaml.Tag

/-!
# From tokens to nodes

A document is a graph of nodes: an alias stands for a node that has been given a
name before, also for one that it lies within.  So the nodes are kept in an array, and
lists and mappings name their parts by their places in it.

## Main definitions

* `Node`, `Graph`.
* `Compose.node` — the node that stands next among the tokens.
* `compose` — the only document of a stream of tokens.
-/

namespace Kumihan.Yaml

/-- What a node holds. -/
inductive Content
  /-- A text. -/
  | scalar (text : List Text.Letter)
  /-- The nodes of a list. -/
  | sequence (items : List Nat)
  /-- The nodes of the keys of a mapping and of their values. -/
  | mapping (entries : List (Nat × Nat))
  deriving DecidableEq, Repr

/-- A node of a document. -/
structure Node where
  /-- What kind of value it is. -/
  tag : Tag
  /-- What it holds. -/
  content : Content
  deriving DecidableEq, Repr

/-- The nodes of a document. -/
abbrev Graph := Array Node

/-- What is known between two tokens of a document. -/
structure Composer where
  /-- The tokens to come. -/
  tokens : List Token
  /-- The fault that ends them early. -/
  fault : Option Fault
  /-- The nodes so far. -/
  nodes : Graph := #[]
  /-- The nodes that have names. -/
  anchors : List (String × Nat) := []
  /-- What the handles of tags stand for. -/
  handles : List (String × String) := []
  deriving Repr

/-- Steps of a composer. -/
abbrev Compose := StateT Composer (Except Fault)

namespace Compose

/-- A step that fails. -/
def fail {α : Type} (complaint : Complaint) : Compose α := throw (.malformed complaint)

/-- The next token, or none at the end of the stream. -/
def peek : Compose (Option Token) := do
  let s ← get
  match s.tokens, s.fault with
  | [], some fault => throw fault
  | tokens, _ => return tokens.head?

/-- Pass a token. -/
def advance : Compose Unit := modify fun s => { s with tokens := s.tokens.tail }

/-- The next token is one of those; the end of the stream is none of them. -/
def nextIn (ts : List Token) : Compose Bool := return (← peek).any ts.elem

/-- Add a node. -/
def add (node : Node) : Compose Nat := do
  let s ← get
  set { s with nodes := s.nodes.push node }
  return s.nodes.size

/-- Set what a node holds. -/
def fill (place : Nat) (content : Content) : Compose Nat := do
  modify fun s => { s with nodes := s.nodes.modify place fun node => { node with content } }
  return place

/-- The node that stands where nothing is written. -/
def emptyNode : Compose Nat := add ⟨.ofPlain [], .scalar []⟩

/-! ### Names and tags of a node -/

/-- What stands before a node. -/
structure Properties where
  /-- The name of the node. -/
  anchor : Option String := none
  /-- The name of its tag. -/
  tag : Option String := none

/-- The name of a tag. -/
def tagName (handle : Option String) (suffix : String) : Compose String := do
  match handle with
  | none => return suffix
  | some handle =>
    match (← get).handles.lookup handle with
    | some meaning => return meaning ++ suffix
    | none => fail (.undefinedHandle handle)

/-- An anchor and a tag, each at most once and in either order. -/
def properties : Compose Properties := do
  match ← peek with
  | some (.anchor name) =>
    advance
    match ← peek with
    | some (.tag handle suffix) =>
      advance
      return { anchor := some name, tag := some (← tagName handle suffix) }
    | _ => return { anchor := some name }
  | some (.tag handle suffix) =>
    advance
    match ← peek with
    | some (.anchor name) =>
      advance
      return { anchor := some name, tag := some (← tagName handle suffix) }
    | _ => return { tag := some (← tagName handle suffix) }
  | _ => return {}

/-- Give a name to a node that is about to be added. -/
def nameNext (anchor : Option String) : Compose Unit := do
  match anchor with
  | none => return
  | some name =>
    let s ← get
    if (s.anchors.lookup name).isSome then fail (.duplicateAnchor name)
    set { s with anchors := (name, s.nodes.size) :: s.anchors }

/-- The tag that is given, or else the usual one; an exclamation mark alone asks for the usual
one. -/
def tagOr (usual : Tag) (tag : Option String) : Tag :=
  match tag with
  | none | some "!" => usual
  | some name => .ofName name

/-- Add a scalar.  It is looked at as a scalar without quotes if it is one and has no
tag, or if its tag is an exclamation mark. -/
def addScalar (props : Properties) (text : List Text.Letter) (plain : Bool) : Compose Nat := do
  nameNext props.anchor
  let usual := if plain || props.tag == some "!" then Tag.ofPlain text else .str
  add ⟨tagOr usual props.tag, .scalar text⟩

/-- Add a list or a mapping whose parts come later. -/
def addCollection (props : Properties) (usual : Tag) (content : Content) : Compose Nat := do
  nameNext props.anchor
  add ⟨tagOr usual props.tag, content⟩

/-! ### Nodes -/

mutual

/-- The node that stands next.  A list or mapping in block style may stand there if
`block` is set, and the entries of a list without a mark before them if `loose` is. -/
def node : Nat → (block loose : Bool) → Compose Nat
  | 0, _, _ => fail .missingNode
  | n + 1, block, loose => do
    match ← peek with
    | some (.alias name) =>
      advance
      match (← get).anchors.lookup name with
      | some place => return place
      | none => fail (.undefinedAlias name)
    | _ =>
      let props ← properties
      match ← peek, block, loose with
      | some .entry, _, true =>
        let place ← addCollection props .seq (.sequence [])
        fill place (.sequence (← looseItems n))
      | some (.scalar text plain), _, _ =>
        advance
        addScalar props text plain
      | some .flowSequence, _, _ =>
        advance
        let place ← addCollection props .seq (.sequence [])
        fill place (.sequence (← flowItems n true))
      | some .flowMapping, _, _ =>
        advance
        let place ← addCollection props .map (.mapping [])
        fill place (.mapping (← flowEntries n true))
      | some .blockSequence, true, _ =>
        advance
        let place ← addCollection props .seq (.sequence [])
        fill place (.sequence (← blockItems n))
      | some .blockMapping, true, _ =>
        advance
        let place ← addCollection props .map (.mapping [])
        fill place (.mapping (← blockEntries n))
      | _, _, _ =>
        if props.anchor.isNone && props.tag.isNone then fail .missingNode
        addScalar props [] props.tag.isNone

/-- A node in block style, or an empty one before one of the tokens. -/
def blockNodeBefore : Nat → (stops : List Token) → (loose : Bool) → Compose Nat
  | 0, _, _ => fail .missingNode
  | n + 1, stops, loose => do
    if ← nextIn stops then emptyNode else node n true loose

/-- A node in flow style, or an empty one before one of the tokens. -/
def flowNodeBefore : Nat → (stops : List Token) → Compose Nat
  | 0, _ => fail .missingNode
  | n + 1, stops => do
    if ← nextIn stops then emptyNode else node n false false

/-- The value of a key, empty if there is no colon or one of the tokens follows. -/
def valueBefore : Nat → (stops : List Token) → (block : Bool) → Compose Nat
  | 0, _, _ => fail .missingNode
  | n + 1, stops, block => do
    if ← nextIn [.value] then
      advance
      if block then blockNodeBefore n stops true else flowNodeBefore n stops
    else emptyNode

/-- The entries of a list in block style. -/
def blockItems : Nat → Compose (List Nat)
  | 0 => fail .missingBlockEnd
  | n + 1 => do
    if ← nextIn [.entry] then
      advance
      let item ← blockNodeBefore n [.entry, .blockEnd] false
      return item :: (← blockItems n)
    else if ← nextIn [.blockEnd] then
      advance
      return []
    else fail .missingBlockEnd

/-- The entries of a list that has the indentation of the mapping around it. -/
def looseItems : Nat → Compose (List Nat)
  | 0 => fail .missingBlockEnd
  | n + 1 => do
    if ← nextIn [.entry] then
      advance
      let item ← blockNodeBefore n [.entry, .key, .value, .blockEnd] false
      return item :: (← looseItems n)
    else return []

/-- The entries of a mapping in block style. -/
def blockEntries : Nat → Compose (List (Nat × Nat))
  | 0 => fail .missingBlockEnd
  | n + 1 => do
    if ← nextIn [.key] then
      advance
      let key ← blockNodeBefore n [.key, .value, .blockEnd] true
      let value ← valueBefore n [.key, .value, .blockEnd] true
      return (key, value) :: (← blockEntries n)
    else if ← nextIn [.blockEnd] then
      advance
      return []
    else fail .missingBlockEnd

/-- The entries of a list in flow style.  One that is a key with a value is a mapping
of its own. -/
def flowItems : Nat → (first : Bool) → Compose (List Nat)
  | 0, _ => fail .missingComma
  | n + 1, first => do
    unless first || (← nextIn [.flowSequenceEnd]) do
      unless ← nextIn [.comma] do fail .missingComma
      advance
    if ← nextIn [.flowSequenceEnd] then
      advance
      return []
    else if ← nextIn [.key] then
      advance
      let place ← addCollection {} .map (.mapping [])
      let key ← flowNodeBefore n [.value, .comma, .flowSequenceEnd]
      let value ← valueBefore n [.comma, .flowSequenceEnd] false
      let item ← fill place (.mapping [(key, value)])
      return item :: (← flowItems n false)
    else
      let item ← node n false false
      return item :: (← flowItems n false)

/-- The entries of a mapping in flow style. -/
def flowEntries : Nat → (first : Bool) → Compose (List (Nat × Nat))
  | 0, _ => fail .missingComma
  | n + 1, first => do
    unless first || (← nextIn [.flowMappingEnd]) do
      unless ← nextIn [.comma] do fail .missingComma
      advance
    if ← nextIn [.flowMappingEnd] then
      advance
      return []
    else if ← nextIn [.key] then
      advance
      let key ← flowNodeBefore n [.value, .comma, .flowMappingEnd]
      let value ← valueBefore n [.comma, .flowMappingEnd] false
      return (key, value) :: (← flowEntries n false)
    else
      let key ← node n false false
      let value ← emptyNode
      return (key, value) :: (← flowEntries n false)

end

/-! ### Documents -/

/-- The handles that need no directive. -/
def usualHandles : List (String × String) := [("!", "!"), ("!!", Tag.common)]

/-- The directives before a document. -/
def directives : Nat → (hasVersion : Bool) → Compose Unit
  | 0, _ => return
  | n + 1, hasVersion => do
    match ← peek with
    | some (.directive (.version major _)) =>
      advance
      if hasVersion then fail .duplicateDirective
      if major ≠ 1 then fail (.otherVersion major)
      directives n true
    | some (.directive (.handle name meaning)) =>
      advance
      let s ← get
      if (s.handles.lookup name).isSome then fail .duplicateDirective
      set { s with handles := (name, meaning) :: s.handles }
      directives n hasVersion
    | some (.directive .other) =>
      advance
      directives n hasVersion
    | _ => return

/-- Pass the marks behind a document. -/
def documentEnds : Nat → Compose Unit
  | 0 => return
  | n + 1 => do
    if ← nextIn [.documentEnd] then
      advance
      documentEnds n

/-- The next token is a directive. -/
def atDirective : Compose Bool :=
  return (← peek).any fun t => t matches .directive _

/-- Pass what stands before a document, and tell whether anything does. -/
def documentStart (turns : Nat) : Compose Bool := do
  if (← atDirective) || (← nextIn [.documentStart]) then
    directives turns false
    unless ← nextIn [.documentStart] do fail .missingDocumentStart
    advance
    return true
  return false

/-- Nothing stands in the document. -/
def atEmptyDocument : Compose Bool :=
  return (← peek).isNone || (← atDirective) || (← nextIn [.documentStart, .documentEnd])

/-- The node that a document is.  It may be empty if the document begins with a mark. -/
def documentRoot (turns : Nat) (explicit : Bool) : Compose Nat := do
  modify fun s => { s with handles := s.handles ++ usualHandles }
  if ← pure explicit <&&> atEmptyDocument then emptyNode else node (4 * turns) true false

/-- The node, if no other document follows its own. -/
def onlyRoot (turns root : Nat) : Compose (Option Nat) := do
  documentEnds turns
  if (← peek).isNone then return some root
  modify fun s => { s with handles := [] }
  directives turns false
  unless ← nextIn [.documentStart] do fail .missingDocumentStart
  fail .severalDocuments

/-- The only document of the stream, or none if the stream is empty. -/
def document : Compose (Option Nat) := do
  if (← peek).isNone then return none
  let turns := (← get).tokens.length + 1
  let root ← documentRoot turns (← documentStart turns)
  onlyRoot turns root

end Compose

/-- The only document of a stream of tokens, by the place of its root. -/
def compose (tokens : List Token) (fault : Option Fault) : Except Fault (Option Nat × Graph) := do
  let (root, s) ← Compose.document.run ⟨tokens, fault, #[], [], []⟩
  return (root, s.nodes)

end Kumihan.Yaml

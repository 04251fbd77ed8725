import BlockHarness.Yaml.Event

/-! The first document of a YAML text as a tree. Where a text is malformed the tree ends in a cut, so that what
stands before the place can still be read. Aliases stay in the tree, because their targets may contain them. -/
namespace BlockHarness.Yaml
set_option autoImplicit false

/-! ## Trees -/

/-- A node of a document: `void` is a document without any text, `cut` the place where a malformed text ends. -/
inductive Node where
  | void
  | cut
  | «alias» (number : Nat)
  | scalar (tag : Option Text) (isPlain : Bool) (text : Text)
  | sequence (items : List Node)
  | mapping (entries : List (Node × Node))

mutual

/-- Whether a node has been read to its end. -/
def Node.isWhole : Node → Bool
  | .cut => false
  | .sequence items => areWhole items
  | .mapping entries => areWholeEntries entries
  | .void | .«alias» _ | .scalar _ _ _ => true

def areWhole : List Node → Bool
  | [] => true
  | node :: rest => node.isWhole && areWhole rest

def areWholeEntries : List (Node × Node) → Bool
  | [] => true
  | (key, value) :: rest => key.isWhole && value.isWhole && areWholeEntries rest

end

/-- A text as its first document, with what aliases stand for by number. It is complete if the document is
well-formed and nothing follows it. -/
structure Document where
  root : Node
  targets : List (Nat × Node)
  complete : Bool

/-- A node, or what it stands for if it is an alias. What an alias stands for is never an alias. -/
def Document.resolve (d : Document) : Node → Node
  | .«alias» n => (d.targets.lookup n).getD .cut
  | node => node

/-! ## Trees in the making -/

/-- An open collection: its place among the anchored nodes, if it is one, and its nodes so far, last one first. -/
structure OpenNode where
  isMapping : Bool
  anchored : Option Nat
  before : List Node

/-- A tree in the making. `names` numbers the names of anchors, `latest` gives for a number the last node that was
anchored with it, and `anchored` holds the finished ones of `count` anchored nodes. -/
structure TreeBuilder where
  root : Option Node := none
  opened : List OpenNode := []
  names : List (Text × Nat) := []
  latest : List (Nat × Nat) := []
  count : Nat := 0
  anchored : List (Nat × Node) := []

/-- Keys and values in turn as entries; a key without a value is cut. -/
def pairUp : List Node → List (Node × Node)
  | [] => []
  | [key] => [(key, .cut)]
  | key :: value :: rest => (key, value) :: pairUp rest

namespace TreeBuilder

/-- Anchors the node that starts here. The number of its name is the count of different names before it. -/
def anchor (b : TreeBuilder) : Option Text → TreeBuilder × Option Nat
  | none => (b, none)
  | some name =>
    let number := b.names.length
    ({ b with
        names := (name, number) :: b.names.filter (·.1 ≠ name)
        latest := (number, b.count) :: b.latest
        count := b.count + 1 }, some b.count)

/-- Adds a finished node to the innermost open collection. -/
def add (b : TreeBuilder) (anchored : Option Nat) (node : Node) : TreeBuilder :=
  let b := match anchored with
    | none => b
    | some n => { b with anchored := (n, node) :: b.anchored }
  match b.opened with
  | [] => { b with root := b.root.or (some node) }
  | o :: outer => { b with opened := { o with before := node :: o.before } :: outer }

def openNode (b : TreeBuilder) (isMapping : Bool) (props : Properties) : TreeBuilder :=
  let (b, anchored) := b.anchor props.anchor
  { b with opened := ⟨isMapping, anchored, []⟩ :: b.opened }

/-- Closes the innermost open collection. -/
def close (b : TreeBuilder) : TreeBuilder :=
  match b.opened with
  | [] => b
  | o :: outer =>
    let nodes := o.before.reverse
    ({ b with opened := outer } : TreeBuilder).add o.anchored
      (if o.isMapping then .mapping (pairUp nodes) else .sequence nodes)

/-- Takes an event inside a document. An alias for a name that no anchor has given is refused. -/
def feed? (b : TreeBuilder) : Event → Option TreeBuilder
  | .«alias» name => (b.names.lookup name).map fun n => b.add none (.«alias» n)
  | .scalar props isPlain text =>
    let (b, anchored) := b.anchor props.anchor
    some (b.add anchored (.scalar props.tag isPlain text))
  | .sequenceStart props => some (b.openNode false props)
  | .mappingStart props => some (b.openNode true props)
  | .sequenceEnd | .mappingEnd => some b.close
  | .streamEnd | .documentStart | .documentEnd => none

/-- The document of a tree, which is complete or not. -/
def toDocument (b : TreeBuilder) (complete : Bool) : Document where
  root := b.root.getD .cut
  targets := b.latest.filterMap fun (number, n) => (b.anchored.lookup n).map fun node => (number, node)
  complete

/-- The document of a tree that breaks off: every open collection ends in a cut. -/
def breakOff (b : TreeBuilder) : Document :=
  (b.opened.foldl (fun b _ => (b.add none .cut).close) b).toDocument false

end TreeBuilder

/-! ## From events -/

namespace Document

/-- Reads the events of a document behind those in a tree. -/
def readFrom (b : TreeBuilder) : List Event → Document
  | [] => b.breakOff
  | .documentEnd :: rest => b.toDocument (rest.head? == some .streamEnd)
  | event :: rest =>
    match b.feed? event with
    | none => b.breakOff
    | some b => readFrom b rest

def ofEvents : List Event → Document
  | .documentStart :: rest => readFrom {} rest
  | .streamEnd :: _ => ⟨.void, [], true⟩
  | _ => ⟨.cut, [], false⟩

/-- The first document of a text. -/
def ofText (t : Text) : Document := ofEvents (Event.ofTokens (Token.ofText t))

end Document
end BlockHarness.Yaml

import Vendoring.Yaml.Event
import Vendoring.Yaml.Tokens

/-!
# Documents

A document is a tree of nodes. It holds all that could be read: where the text turned out to be
malformed, the collections that were open then have not ended, and the fault is kept beside them.
Nodes with an anchor have a number, to which aliases refer. The number counts the names that came
before, so that nodes of which one takes over the name of another can share it; then an alias
means the last of them, even if that one comes behind the alias.

`Document.ofString` reads the first document of a text.
-/

set_option autoImplicit false

namespace Vendoring.Yaml

/-- What every node but an alias has. -/
structure NodeHead where
  mark : Mark
  anchor? : Option Nat
  tag? : Option String
  deriving DecidableEq, Repr

/-- A node. The items of a mapping are keys and values by turns. -/
inductive Node where
  | aliasOf (mark : Mark) (target : Nat)
  | scalar (head : NodeHead) (style : Style) (text : String)
  | sequence (head : NodeHead) (items : List Node) (ended : Bool)
  | mapping (head : NodeHead) (items : List Node) (ended : Bool)

namespace Node

/-- Where a node starts. -/
def mark : Node → Mark
  | aliasOf mark _ => mark
  | scalar head .. | sequence head .. | mapping head .. => head.mark

mutual

/-- The nodes with a number, in the order in which they start. -/
def anchored (number : Nat) : Node → List Node
  | aliasOf .. => []
  | scalar head style text =>
    if head.anchor? = some number then [.scalar head style text] else []
  | sequence head items ended =>
    let inside := anchoredAmong number items
    if head.anchor? = some number then .sequence head items ended :: inside else inside
  | mapping head items ended =>
    let inside := anchoredAmong number items
    if head.anchor? = some number then .mapping head items ended :: inside else inside

/-- The nodes with a number in some nodes. -/
def anchoredAmong (number : Nat) : List Node → List Node
  | [] => []
  | n :: ns => anchored number n ++ anchoredAmong number ns

end

end Node

/-- The first document of a text. -/
structure Document where
  /-- The node of the document. A text may have none, and a fault may come before it. -/
  root? : Option Node
  /-- Why the rest of the document could not be read. -/
  fault? : Option Fault
  /-- Does nothing come behind the document? -/
  isLast : Bool

namespace Document

/-- A collection that has not ended, with its items from the last to the first. -/
structure OpenNode where
  isMapping : Bool
  head : NodeHead
  reversed : List Node

/-- The collection as a node. -/
def OpenNode.close (o : OpenNode) (ended : Bool) : Node :=
  if o.isMapping then .mapping o.head o.reversed.reverse ended
  else .sequence o.head o.reversed.reverse ended

/-- A tree that is being built from its events. -/
structure Builder where
  /-- The open collections, from the inside out. -/
  opened : List OpenNode
  root? : Option Node
  /-- The names so far, with the number of the last node that has them. -/
  anchors : List (String × Nat)

namespace Builder

/-- No node yet. -/
def empty : Builder := ⟨[], none, []⟩

/-- With a node that has no further items. -/
def add (b : Builder) (n : Node) : Builder :=
  match b.opened with
  | [] => { b with root? := some n }
  | o :: outer => { b with opened := { o with reversed := n :: o.reversed } :: outer }

/-- Without the innermost collection, which becomes an item of the one around it. -/
def close (b : Builder) (ended : Bool) : Builder :=
  match b.opened with
  | [] => b
  | o :: outer => { b with opened := outer }.add (o.close ended)

/-- The head of a node that starts now. -/
def head (b : Builder) (mark : Mark) (p : Properties) : NodeHead × Builder :=
  match p.anchor? with
  | some name =>
    let number := b.anchors.length
    let others := b.anchors.filter (·.1 ≠ name)
    (⟨mark, some number, p.tag?⟩, { b with anchors := (name, number) :: others })
  | none => (⟨mark, none, p.tag?⟩, b)

/-- With one more event. -/
def step (b : Builder) (e : Event) : Except Fault Builder :=
  match e.kind with
  | .aliasOf name =>
    match b.anchors.lookup name with
    | some number => return b.add (.aliasOf e.mark number)
    | none => .error (.unknownAnchor e.mark)
  | .scalar p style text =>
    let (head, b) := b.head e.mark p
    return b.add (.scalar head style text)
  | .sequenceStart p =>
    let (head, b) := b.head e.mark p
    return { b with opened := ⟨false, head, []⟩ :: b.opened }
  | .mappingStart p =>
    let (head, b) := b.head e.mark p
    return { b with opened := ⟨true, head, []⟩ :: b.opened }
  | .sequenceEnd | .mappingEnd => return b.close true

/-- The node of the document as far as it has been read. -/
def root (b : Builder) : Option Node :=
  (b.opened.foldl (fun b _ => b.close false) b).root?

/-- The node that events build, and a fault among them. -/
def build (b : Builder) : List Event → Option Node × Option Fault
  | [] => (b.root, none)
  | e :: es =>
    match b.step e with
    | .ok b => b.build es
    | .error fault => (b.root, some fault)

end Builder

/-- Do the tokens only end a document and then the text? -/
def endsText (rest : List Token) : Bool :=
  match rest.dropWhile (·.kind = .documentEnd) with
  | t :: _ => t.kind = .endOfText
  | [] => false

/-- The first document of a text. -/
def ofString (text : String) : Document :=
  let tokens := Tokens.ofString text
  let events := Events.ofStream tokens.fault? false [] tokens.tokens
  let (root?, fault?) := Builder.empty.build events.events
  ⟨root?, fault? <|> events.fault?, endsText events.rest⟩

/-- The node that an alias with a number refers to. -/
def target? (d : Document) (number : Nat) : Option Node :=
  d.root?.bind fun root => (root.anchored number).getLast?

/-- The node itself, or the one that it refers to as an alias. -/
def resolve (d : Document) : Node → Option Node
  | .aliasOf _ number => d.target? number
  | n => some n

end Document

end Vendoring.Yaml

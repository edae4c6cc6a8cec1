import Vendoring.Yaml.Fault
import Vendoring.Yaml.Token

/-!
# What the tokens of a document say

A document is a node, and its tokens say node by node what it consists of. They are read with a
stack of expectations: each token is offered to the uppermost one, which either takes it and leaves
further expectations in its place, or is content without it and leaves it to the next one, or
refuses it. What is left out, such as a value without a text, is an empty scalar. When no
expectation is left the document has ended.
-/

set_option autoImplicit false

namespace Vendoring.Yaml

/-- The name of a node for aliases, and the name of its type. -/
structure Properties where
  anchor? : Option String
  tag? : Option String
  deriving DecidableEq, Repr

/-- Neither an anchor nor a tag. -/
def Properties.none : Properties := ⟨.none, .none⟩

/-- What happens at an event. -/
inductive EventKind where
  | aliasOf (name : String)
  | scalar (properties : Properties) (style : Style) (text : String)
  | sequenceStart (properties : Properties)
  | sequenceEnd
  | mappingStart (properties : Properties)
  | mappingEnd
  deriving DecidableEq, Repr

/-- A step through the nodes of a document. -/
structure Event where
  kind : EventKind
  mark : Mark
  deriving DecidableEq, Repr

/-- The node that stands where nothing is written. -/
def Event.absent (mark : Mark) : Event := ⟨.scalar .none .plain "", mark⟩

/-! ## Tags -/

/-- Tag handles with what they stand for. -/
abbrev Handles := List (String × String)

/-- The handles that need no directive. -/
def Handles.default : Handles := [("!", "!"), ("!!", "tag:yaml.org,2002:")]

/-- The properties of a node as they are written. -/
structure Preamble where
  /-- Where the first of them is. -/
  start : Mark
  anchor? : Option String
  /-- A handle, what comes behind it, and where the handle is. -/
  tag? : Option (String × String × Mark)

namespace Preamble

/-- The properties, with their tag written out. -/
def properties (handles : Handles) (p : Preamble) : Except Fault Properties :=
  match p.tag? with
  | .none => return ⟨p.anchor?, .none⟩
  | some ("", suffix, _) => return ⟨p.anchor?, some suffix⟩
  | some (handle, suffix, mark) =>
    match handles.lookup handle with
    | some start => return ⟨p.anchor?, some (start ++ suffix)⟩
    | .none => .error (.malformed .undefinedTagHandle mark (some (.node, p.start)))

end Preamble

/-! ## Expectations -/

/-- Where a node stands. It decides which collections it can be. -/
inductive Place where
  /-- In a block. -/
  | block
  /-- In a block mapping, where the entries of a sequence need no indentation of their own. -/
  | field
  /-- In a flow collection. -/
  | flow
  deriving DecidableEq, Repr

/-- What is expected. -/
inductive Expectation where
  /-- A node. -/
  | node (place : Place)
  /-- The rest of a node that has properties. -/
  | described (place : Place) (preamble : Preamble)
  /-- The node of a document that has been announced. -/
  | content
  /-- An entry of a block sequence, or its end. -/
  | blockSequence (start : Mark)
  /-- The node behind a dash, and where it stands if it is left out. -/
  | blockEntry (absent : Mark)
  /-- An entry of a sequence that has no indentation of its own. Anything else ends it. -/
  | flatSequence
  /-- The node behind a dash of such a sequence. -/
  | flatEntry (absent : Mark)
  /-- A key of a block mapping, or its end. -/
  | blockMapping (start : Mark)
  /-- The node of a key or value in a block mapping. -/
  | blockField (absent : Mark)
  /-- The value for a key in a block mapping. -/
  | blockValue
  /-- The comma behind an entry of a flow sequence, or its end. -/
  | flowSequence (start : Mark)
  /-- An entry of a flow sequence, or its end. -/
  | flowEntry (start : Mark)
  /-- The key of a single pair in a flow sequence. -/
  | pairKey
  /-- The value for such a key. -/
  | pairValue
  /-- The node of such a value. -/
  | pairValueNode
  /-- The end of a single pair. -/
  | pairEnd
  /-- The comma behind an entry of a flow mapping, or its end. -/
  | flowMapping (start : Mark)
  /-- A key of a flow mapping, or its end. -/
  | flowKey (start : Mark)
  /-- The node of such a key. -/
  | flowKeyNode
  /-- The value for a key of a flow mapping. -/
  | flowValue
  /-- The node of such a value. -/
  | flowValueNode
  /-- The value for a key that cannot have one. -/
  | noValue

/-- What becomes of a token. -/
inductive Reply where
  /-- It is taken, and further expectations arise. -/
  | take (events : List Event) (expected : List Expectation)
  /-- The expectation is met without it. -/
  | leave (events : List Event)
  | refuse (fault : Fault)

/-- A collection begins with its first token. -/
def Reply.opening (kind : EventKind) (mark : Mark) (expected : Expectation) : Reply :=
  .take [⟨kind, mark⟩] [expected]

/-- A collection ends with its last token. -/
def Reply.closing (kind : EventKind) (t : Token) : Reply := .take [⟨kind, t.mark⟩] []

/-- Something stands there that does not belong into a collection. -/
def Reply.misplaced (problem : Problem) (context : Context) (start : Mark) (t : Token) : Reply :=
  .refuse (.malformed problem t.mark (some (context, start)))

/-- The content of a node that starts at a place. -/
def contentReply (place : Place) (p : Properties) (start : Mark) (t : Token) : Reply :=
  let inBlock := place ≠ .flow
  let described := p ≠ .none
  let missing :=
    if described then .leave [⟨.scalar p .plain "", start⟩]
    else .misplaced .expectedContent (if inBlock then .blockNode else .flowNode) start t
  match t.kind with
  | .scalar style text => .take [⟨.scalar p style text, start⟩] []
  | .flowSequenceStart => .opening (.sequenceStart p) start (.flowEntry t.mark)
  | .flowMappingStart => .opening (.mappingStart p) start (.flowKey t.mark)
  | .blockSequenceStart =>
    if inBlock then .opening (.sequenceStart p) start (.blockSequence t.mark) else missing
  | .blockMappingStart =>
    if inBlock then .opening (.mappingStart p) start (.blockMapping t.mark) else missing
  | .blockEntry =>
    if place = .field then
      .take [⟨.sequenceStart p, start⟩] [.flatEntry t.finish, .flatSequence]
    else missing
  | _ => missing

/-- A node of which nothing has been read. -/
def nodeReply (place : Place) (t : Token) : Reply :=
  match t.kind with
  | .aliasOf name => .take [⟨.aliasOf name, t.mark⟩] []
  | .anchor name => .take [] [.described place ⟨t.mark, some name, none⟩]
  | .tag handle suffix => .take [] [.described place ⟨t.mark, none, some (handle, suffix, t.mark)⟩]
  | _ => contentReply place .none t.mark t

/-- A node of which the first property has been read. It may have one of each kind. -/
def describedReply (handles : Handles) (place : Place) (preamble : Preamble) (t : Token) : Reply :=
  match preamble, t.kind with
  | ⟨start, none, tag?⟩, .anchor name => .take [] [.described place ⟨start, some name, tag?⟩]
  | ⟨start, anchor?, none⟩, .tag handle suffix =>
    .take [] [.described place ⟨start, anchor?, some (handle, suffix, t.mark)⟩]
  | preamble, _ =>
    match preamble.properties handles with
    | .ok p => contentReply place p preamble.start t
    | .error fault => .refuse fault

/-- A node that may be left out, which one of some tokens tells. -/
def optionalReply (place : Place) (endings : List TokenKind) (absent : Mark) (t : Token) : Reply :=
  if endings.contains t.kind then .leave [.absent absent] else nodeReply place t

/-- A reply with further expectations behind those that it brings. -/
def Reply.followedBy (expected : List Expectation) : Reply → Reply
  | .take events first => .take events (first ++ expected)
  | reply => reply

namespace Expectation

/-- What becomes of a token. -/
def reply (handles : Handles) (t : Token) : Expectation → Reply
  | node place => nodeReply place t
  | described place preamble => describedReply handles place preamble t
  | content =>
    match t.kind with
    | .version .. | .tagHandle .. | .documentStart | .documentEnd | .endOfText =>
      .leave [.absent t.mark]
    | _ => nodeReply .block t
  | blockSequence start =>
    match t.kind with
    | .blockEntry => .take [] [.blockEntry t.finish, .blockSequence start]
    | .blockEnd => .closing .sequenceEnd t
    | _ => .misplaced .expectedEntry .blockSequence start t
  | blockEntry absent => optionalReply .block [.blockEntry, .blockEnd] absent t
  | flatSequence =>
    match t.kind with
    | .blockEntry => .take [] [.flatEntry t.finish, .flatSequence]
    | _ => .leave [⟨.sequenceEnd, t.mark⟩]
  | flatEntry absent => optionalReply .block [.blockEntry, .key, .value, .blockEnd] absent t
  | blockMapping start =>
    match t.kind with
    | .key => .take [] [.blockField t.finish, .blockValue, .blockMapping start]
    | .blockEnd => .closing .mappingEnd t
    | _ => .misplaced .expectedKey .blockMapping start t
  | blockField absent => optionalReply .field [.key, .value, .blockEnd] absent t
  | blockValue =>
    match t.kind with
    | .value => .take [] [.blockField t.finish]
    | _ => .leave [.absent t.mark]
  | flowSequence start =>
    match t.kind with
    | .flowEntry => .take [] [.flowEntry start]
    | .flowSequenceEnd => .closing .sequenceEnd t
    | _ => .misplaced .expectedSequenceEnd .flowSequence start t
  | flowEntry start =>
    match t.kind with
    | .flowSequenceEnd => .closing .sequenceEnd t
    | .key =>
      .take [⟨.mappingStart .none, t.mark⟩] [.pairKey, .pairValue, .pairEnd, .flowSequence start]
    | _ => (nodeReply .flow t).followedBy [.flowSequence start]
  | pairKey =>
    match t.kind with
    | .value | .flowEntry | .flowSequenceEnd => .take [.absent t.finish] []
    | _ => nodeReply .flow t
  | pairValue =>
    match t.kind with
    | .value => .take [] [.pairValueNode]
    | _ => .leave [.absent t.mark]
  | pairValueNode => optionalReply .flow [.flowEntry, .flowSequenceEnd] t.mark t
  | pairEnd => .leave [⟨.mappingEnd, t.mark⟩]
  | flowMapping start =>
    match t.kind with
    | .flowEntry => .take [] [.flowKey start]
    | .flowMappingEnd => .closing .mappingEnd t
    | _ => .misplaced .expectedMappingEnd .flowMapping start t
  | flowKey start =>
    match t.kind with
    | .flowMappingEnd => .closing .mappingEnd t
    | .key => .take [] [.flowKeyNode, .flowValue, .flowMapping start]
    | _ => (nodeReply .flow t).followedBy [.noValue, .flowMapping start]
  | flowKeyNode => optionalReply .flow [.value, .flowEntry, .flowMappingEnd] t.mark t
  | flowValue =>
    match t.kind with
    | .value => .take [] [.flowValueNode]
    | _ => .leave [.absent t.mark]
  | flowValueNode => optionalReply .flow [.flowEntry, .flowMappingEnd] t.mark t
  | noValue => .leave [.absent t.mark]

end Expectation

/-! ## A document -/

/-- What an offered token leads to. -/
inductive Outcome where
  | expecting (stack : List Expectation)
  /-- All expectations were met before it. -/
  | ended
  | fault (f : Fault)

/-- Offers a token to a stack of expectations. -/
def offer (handles : Handles) (t : Token) : List Expectation → List Event × Outcome
  | [] => ([], .ended)
  | expectation :: below =>
    match expectation.reply handles t with
    | .take events expected => (events, .expecting (expected ++ below))
    | .leave events =>
      let (more, outcome) := offer handles t below
      (events ++ more, outcome)
    | .refuse fault => ([], .fault fault)

/-- The events of a document up to a fault. -/
structure Events where
  events : List Event
  fault? : Option Fault
  /-- The tokens behind the document. -/
  rest : List Token

namespace Events

/-- No events. -/
def none : Events := ⟨[], .none, []⟩

/-- No events because of a fault. -/
def failed (fault : Fault) : Events := ⟨[], some fault, []⟩

/-- With events in front. -/
def after (front : List Event) (es : Events) : Events := { es with events := front ++ es.events }

/-- The events that meet expectations. If the tokens are too few, `cut?` is the reason. -/
def ofTokens (handles : Handles) (cut? : Option Fault) :
    List Expectation → List Token → Events
  | _, [] => { none with fault? := cut? }
  | stack, t :: ts =>
    match offer handles t stack with
    | (events, .expecting stack) => (ofTokens handles cut? stack ts).after events
    | (events, .ended) => ⟨events, .none, t :: ts⟩
    | (events, .fault fault) => (failed fault).after events

/-- Is it a version of the language that can be read? -/
def isKnownVersion (major minor : Nat) : Bool := major = 1 && (minor = 1 || minor = 2)

/-- The events of the first document in a text. It begins with directives and a marker behind them,
or with its node. -/
def ofStream (cut? : Option Fault) (versionSeen : Bool) (handles : Handles) : List Token → Events
  | [] => { none with fault? := cut? }
  | t :: ts =>
    let announced := versionSeen || !handles.isEmpty
    match t.kind with
    | .version major minor =>
      if versionSeen then failed (.malformed .repeatedVersion t.mark .none)
      else if isKnownVersion major minor then ofStream cut? true handles ts
      else failed (.malformed .incompatibleVersion t.mark .none)
    | .tagHandle handle start =>
      if (handles.lookup handle).isSome then failed (.malformed .repeatedTagHandle t.mark .none)
      else ofStream cut? versionSeen (handles ++ [(handle, start)]) ts
    | .documentStart => ofTokens (handles ++ .default) cut? [.content] ts
    | kind =>
      if announced then failed (.malformed .expectedDocumentStart t.mark .none)
      else if kind = .endOfText then { none with rest := t :: ts }
      else ofTokens .default cut? [.node .block] (t :: ts)

end Events

end Vendoring.Yaml

import Vendoring.Yaml.Scalar

/-!
# Values in a document

A decoder makes a value of a node or refuses it. A refusal says where the node stands: its path
from the root by keys and indices, and its place in the text. It is the innermost node that is named,
and for an alias that is the node it refers to. Where the document breaks off before a value is
complete, the fault of the document is the reason; but all that stands in front is decoded first.

An empty scalar without quotes is an empty sequence or mapping where one is wanted.
-/

set_option autoImplicit false

namespace Vendoring.Yaml

/-! ## Refusals -/

/-- Why a node is refused. -/
inductive Cause where
  | wrongType (found : Found) (expected : String)
  | wrongValue (text expected : String)
  | repeatedField (key : String)
  deriving DecidableEq, Repr

/-- The words for a cause. -/
def Cause.message : Cause → String
  | wrongType found expected => "invalid type: " ++ found.message ++ ", expected " ++ expected
  | wrongValue text expected =>
    "invalid value: string " ++ Text.quoted text ++ ", expected " ++ expected
  | repeatedField key => "duplicate field \x60" ++ key ++ "\x60"

/-- The way to a node. -/
inductive Path where
  | root
  | field (parent : Path) (key : String)
  /-- The value for a key that is an alias. -/
  | unnamedField (parent : Path)
  | item (parent : Path) (index : Nat)
  deriving DecidableEq, Repr

/-- The text of a path. That of the root is empty. -/
def Path.text : Path → String
  | root => ""
  | field root key => key
  | field parent key => parent.text ++ "." ++ key
  | unnamedField root => "?"
  | unnamedField parent => parent.text ++ ".?"
  | item parent index => parent.text ++ "[" ++ toString index ++ "]"

/-- A refusal. -/
inductive Refusal where
  /-- The document breaks off. -/
  | unfinished
  | refused (cause : Cause) (place? : Option (Mark × Path))
  deriving DecidableEq, Repr

/-- Why a text does not hold what is wanted. -/
inductive ReadFault where
  /-- The text cannot be read. -/
  | unreadable (fault : Fault)
  | refused (cause : Cause) (place? : Option (Mark × Path))
  | severalDocuments
  deriving DecidableEq, Repr

/-- The words for a fault. -/
def ReadFault.message : ReadFault → String
  | unreadable fault => fault.message
  | refused cause none => cause.message
  | refused cause (some (mark, path)) =>
    (if path = .root then "" else path.text ++ ": ") ++ cause.message ++ mark.suffix
  | severalDocuments => "deserializing from YAML containing more than one document is not supported"

/-! ## Decoders -/

/-- Makes a value of a node of a document that stands at a path. -/
abbrev Decoder (α : Type) := Document → Path → Node → Except Refusal α

/-- With the place of a node, unless an inner one is named. -/
def placedAt {α : Type} (n : Node) (path : Path) : Except Refusal α → Except Refusal α
  | .error (.refused cause none) => .error (.refused cause (some (n.mark, path)))
  | result => result

/-- The node is not what was expected. -/
def mismatch {α : Type} (expected : String) : Node → Except Refusal α
  | .aliasOf .. => .error .unfinished
  | .scalar head style text =>
    match Found.ofScalar head.tag? style text with
    | .ok found => .error (.refused (.wrongType found expected) none)
    | .error meant => .error (.refused (.wrongValue text meant) none)
  | .sequence .. => .error (.refused (.wrongType .sequence expected) none)
  | .mapping .. => .error (.refused (.wrongType .mapping expected) none)

namespace Decoder

/-- Decodes the node that an alias refers to in its stead. -/
def resolved {α : Type} (decode : Decoder α) : Decoder α := fun d path n =>
  match d.resolve n with
  | some n => decode d path n
  | none => .error .unfinished

/-- Decodes a node, which a refusal names. -/
def placed {α : Type} (decode : Decoder α) : Decoder α :=
  resolved fun d path n => placedAt n path (decode d path n)

/-- Any scalar, as text. -/
def text (expected : String) : Decoder String := placed fun _ _ n =>
  match n with
  | .scalar _ _ text => .ok text
  | n => mismatch expected n

/-- May a number be taken from the scalar? Otherwise it is text. -/
def mayBeNumber (head : NodeHead) (style : Style) : Bool :=
  style = .plain || (style = .literal && head.tag? = some (valueTag "int"))

/-- A natural number below a limit. -/
def natural (limit : Nat) (expected : String) : Decoder Nat := placed fun _ _ n =>
  match n with
  | .scalar head style text =>
    if mayBeNumber head style then
      match (natural? text).filter (· < limit) with
      | some value => .ok value
      | none => mismatch expected n
    else mismatch expected n
  | n => mismatch expected n

/-- Does the node say that there is no value? -/
def isNothing : Node → Except Refusal Bool
  | .scalar head style text =>
    if style ≠ .plain then .ok false
    else match head.tag? with
      | none => .ok (text.isEmpty || isNull text)
      | some tag =>
        if tag ≠ valueTag "null" then .ok false
        else if isNull text then .ok true
        else .error (.refused (.wrongValue text "null") none)
  | _ => .ok false

/-- A value that may be missing. -/
def optional {α : Type} (decode : Decoder α) : Decoder (Option α) := resolved fun d path n => do
  if ← isNothing n then return none else some <$> decode d path n

/-- Is it an empty scalar without quotes? -/
def isEmptyPlain : Node → Bool
  | .scalar _ .plain text => text.isEmpty
  | _ => false

/-- Behind the last item of a collection. -/
def finish {α : Type} (ended : Bool) (a : α) : Except Refusal α :=
  if ended then .ok a else .error .unfinished

/-- The items of a sequence from an index on. -/
def itemsFrom {α : Type} (decode : Decoder α) (d : Document) (path : Path) (ended : Bool) :
    Nat → List Node → Except Refusal (List α)
  | _, [] => finish ended []
  | index, n :: rest => do
    let a ← decode d (.item path index) n
    return a :: (← itemsFrom decode d path ended (index + 1) rest)

/-- The items of a sequence. -/
def list {α : Type} (decode : Decoder α) : Decoder (List α) := placed fun d path n =>
  match n with
  | .sequence _ items ended => itemsFrom decode d path ended 0 items
  | n => if isEmptyPlain n then .ok [] else mismatch "a sequence" n

/-! ## Records -/

/-- How the value for a key changes a record. Keys without one do not matter. -/
abbrev Fields (α : Type) := String → Option (α → Decoder α)

/-- A field that is set to a decoded value. -/
def field {α β : Type} (decode : Decoder β) (set : β → α → α) : Option (α → Decoder α) :=
  some fun a d path n => (set · a) <$> decode d path n

/-- The path of the value for a key. -/
def fieldPath (path : Path) : Node → Path
  | .scalar _ _ key => .field path key
  | _ => .unnamedField path

/-- The entries of a mapping, which change a record one after the other. A field must not come
twice; `seen` are those that came. -/
def entries {α : Type} (fields : Fields α) (d : Document) (path : Path) (ended : Bool) :
    List String → α → List Node → Except Refusal α
  | _, a, [] => finish ended a
  | seen, _, [k] => do
    let key ← text "field identifier" d path k
    if (fields key).isSome && seen.contains key then .error (.refused (.repeatedField key) none)
    else .error .unfinished
  | seen, a, k :: v :: rest => do
    let key ← text "field identifier" d path k
    match fields key with
    | some change =>
      if seen.contains key then .error (.refused (.repeatedField key) none)
      else
        let a ← change a d (fieldPath path k) v
        entries fields d path ended (key :: seen) a rest
    | none => entries fields d path ended seen a rest

/-- A record that is changed by the entries of a mapping. -/
def record {α : Type} (expected : String) (fields : Fields α) (start : α) : Decoder α :=
  placed fun d path n =>
    match n with
    | .mapping _ items ended => entries fields d path ended [] start items
    | n => if isEmptyPlain n then .ok start else mismatch expected n

end Decoder

/-! ## Texts -/

/-- What a document holds; `empty` is the value of a document without a node. What the decoder
refuses comes before a fault of the document, and a fault before further documents. -/
def Document.decode {α : Type} (d : Document) (decode : Decoder α) (empty : α) :
    Except ReadFault α :=
  let decoded :=
    match d.root?, d.fault? with
    | some root, _ => decode d .root root
    | none, some _ => .error .unfinished
    | none, none => .ok empty
  match decoded, d.fault? with
  | .error (.refused cause place?), _ => .error (.refused cause place?)
  | .error .unfinished, fault? => .error (.unreadable (fault?.getD .endOfText))
  | .ok _, some fault => .error (.unreadable fault)
  | .ok a, none => if d.isLast then .ok a else .error .severalDocuments

end Vendoring.Yaml

import Vendoring.Yaml.Fault
import Vendoring.Yaml.Source
import Vendoring.Yaml.Token

/-!
# Keys and blocks

Whether something is the key of a mapping is known only when the colon behind it has come. So a
place is reserved in front of whatever may be a key, and tokens behind a reserved place are held
back until the colon fills the place or it is given up. A place is given up at the end of its line
or after 1024 characters. Where only a key can stand, giving it up is a fault, and the tokens that
are held back then are lost.

Blocks are opened and closed by the column at which something starts. Inside flow collections
columns do not matter.
-/

set_option autoImplicit false

namespace Vendoring.Yaml

/-- Something that may be a key. -/
structure Key where
  mark : Mark
  /-- Can nothing but a key stand there? -/
  required : Bool
  deriving DecidableEq, Repr

/-- A token that is held back, or a place that is reserved for a key. -/
inductive Slot where
  | token (t : Token)
  | reserved (mark : Mark)
  deriving DecidableEq, Repr

/-- What reading has come to. -/
structure Scan where
  rest : Source
  /-- What may be a key in the innermost collection. -/
  key? : Option Key
  /-- What may be keys in the collections around it, from the inside out. There is one for each
  flow collection that is open. -/
  outerKeys : List (Option Key)
  /-- The columns of the open blocks, from the inside out. -/
  columns : List Nat
  /-- May a key start here? -/
  keyAllowed : Bool
  held : List Slot

namespace Scan

/-- At the start of a text. -/
def start (s : Source) : Scan := ⟨s, none, [], [], true, []⟩

/-- Where reading is. -/
def mark (s : Scan) : Mark := s.rest.mark

/-- Is a flow collection open? -/
def inFlow (s : Scan) : Bool := !s.outerKeys.isEmpty

/-- Adds a token that starts at a place and ends where reading goes on. -/
def push (s : Scan) (kind : TokenKind) (mark : Mark) (rest : Source) : Scan :=
  { s with rest, held := s.held ++ [.token ⟨kind, mark, rest.mark⟩] }

/-- Adds the token of one character that comes next. -/
def pushMark (s : Scan) (kind : TokenKind) : Scan := s.push kind s.mark s.rest.tail

/-! ## Keys -/

/-- Without the place that is reserved for a key. -/
def giveUp (s : Scan) (key : Key) : Scan :=
  { s with held := s.held.filter (· != .reserved key.mark) }

/-- A required key has not become one. -/
def missingColon {α : Type} (s : Scan) (key : Key) : Except Fault α :=
  .error (.malformed .expectedColon s.mark (some (.simpleKey, key.mark)))

/-- What comes next is the end of what may have been a key. -/
def dropKey (s : Scan) : Except Fault Scan :=
  match s.key? with
  | some key =>
    if key.required then s.missingColon key else return { s.giveUp key with key? := none }
  | none => return s

/-- What comes next may be a key. -/
def reserve (s : Scan) : Except Fault Scan :=
  if s.keyAllowed then do
    let required := !s.inFlow && s.columns.head? = some s.mark.column
    let s ← s.dropKey
    return { s with key? := some ⟨s.mark, required⟩, held := s.held ++ [.reserved s.mark] }
  else return s

/-- The greatest distance between the start of a key and what comes behind it. -/
def maxKeyLength : Nat := 1024

/-- Is it too late for a colon behind the key? -/
def isStale (s : Scan) (key : Key) : Bool :=
  key.mark.line < s.mark.line || key.mark.index + maxKeyLength < s.mark.index

/-- Without a key that is stale. -/
def expire (s : Scan) : Option Key → Except Fault (Option Key × Scan)
  | some key =>
    if s.isStale key then
      if key.required then s.missingColon key else return (none, s.giveUp key)
    else return (some key, s)
  | none => return (none, s)

/-- Without the stale ones of some keys. -/
def expireAll (s : Scan) : List (Option Key) → Except Fault (List (Option Key) × Scan)
  | [] => return ([], s)
  | key :: inner => do
    let (key, s) ← s.expire key
    let (inner, s) ← s.expireAll inner
    return (key :: inner, s)

/-- Without stale keys. The outermost one is looked at first. -/
def dropStale (s : Scan) : Except Fault Scan := do
  let (outer, s) ← s.expireAll s.outerKeys.reverse
  let (key, s) ← s.expire s.key?
  return { s with key? := key, outerKeys := outer.reverse }

/-! ## Blocks -/

/-- Opens a block at a column unless there is one, and tells its first token. -/
def openBlock (s : Scan) (kind : TokenKind) (mark : Mark) : List Slot × Scan :=
  if s.inFlow || s.columns.head?.any (mark.column ≤ ·) then ([], s)
  else ([.token ⟨kind, mark, mark⟩], { s with columns := mark.column :: s.columns })

/-- Opens a block here unless there is one. -/
def openBlockHere (s : Scan) (kind : TokenKind) : Scan :=
  let (slots, s) := s.openBlock kind s.mark
  { s with held := s.held ++ slots }

/-- Closes blocks. -/
def closeWhile (s : Scan) (p : Nat → Bool) : Scan :=
  if s.inFlow then s
  else
    let closed := (s.columns.takeWhile p).map fun _ => Slot.token ⟨.blockEnd, s.mark, s.mark⟩
    { s with columns := s.columns.dropWhile p, held := s.held ++ closed }

/-- Closes the blocks that start behind the column that has been reached. -/
def closeBlocks (s : Scan) : Scan := s.closeWhile (s.mark.column < ·)

/-- Closes all blocks. -/
def closeAllBlocks (s : Scan) : Scan := s.closeWhile fun _ => true

/-! ## Tokens that nothing holds back -/

/-- The tokens in front of the first reserved place, and what is held back. -/
def settled : List Slot → List Token × List Slot
  | .token t :: slots =>
    let (tokens, held) := settled slots
    (t :: tokens, held)
  | held => ([], held)

end Scan

end Vendoring.Yaml

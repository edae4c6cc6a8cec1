import Vendoring.Yaml.Token.Quoted

/-!
# Block scalars

A block scalar has a header and lines that are indented alike. The indentation is given in the
header or is that of the first line with text. A literal scalar keeps its line breaks; a folded
one joins lines unless one of them starts with a blank. The header also says what becomes of the
line breaks at the end.
-/

set_option autoImplicit false

namespace Vendoring.Yaml

/-- What is left of the line breaks at the end: one, none or all of them. -/
inductive Chomping where
  | clip
  | strip
  | keep
  deriving DecidableEq, Repr

/-- The header of a block scalar. -/
structure BlockHeader where
  chomping : Chomping
  /-- How much further than its surroundings the text is indented, if that is said. -/
  indentation? : Option Nat

/-- What a character of the header says about line breaks at the end. -/
def Chomping.ofChar? : Char → Option Chomping
  | '+' => some .keep
  | '-' => some .strip
  | _ => none

section

variable (start : Mark)

/-- The text is malformed inside a block scalar. -/
def blockFault {α : Type} (problem : Problem) (mark : Mark) : Except Fault α :=
  .error (.malformed problem mark (some (.blockScalar, start)))

/-- The chomping that comes next, if there is one. -/
def chomping? (s : Source) : Option Chomping × Source :=
  match s.next?.bind Chomping.ofChar? with
  | some chomping => (some chomping, s.tail)
  | none => (none, s)

/-- The indentation that comes next, if there is one. -/
def indentation? (s : Source) : Except Fault (Option Nat × Source) :=
  match s.next? with
  | some c =>
    if c = '0' then blockFault start .zeroIndentation s.mark
    else if c.isDigit then return (some (c.toNat - '0'.toNat), s.tail)
    else return (none, s)
  | none => return (none, s)

/-- The header of a block scalar, and its first line. The two things that a header says come in any
order. -/
def blockHeader (s : Source) : Except Fault (BlockHeader × Source) := do
  let (early, s) := chomping? s
  let (indentation, s) ← indentation? start s
  let (late, s) := if early.isNone && indentation.isSome then chomping? s else (none, s)
  let s := (s.dropWhile isBlank).dropComment
  if s.endsLine then return (⟨(early <|> late).getD .clip, indentation⟩, s.tail)
  else blockFault start .expectedCommentOrBreak s.mark

/-! ## Lines -/

/-- How far the lines of a block scalar are indented. -/
inductive BlockIndentation where
  /-- It is not known yet; so far there were lines with at most so many spaces and nothing else. -/
  | open (widest : Nat)
  | known (column : Nat)

/-- Is a space at a column a part of the indentation? -/
def BlockIndentation.covers (column : Nat) : BlockIndentation → Bool
  | .open _ => true
  | .known n => column < n

/-- After spaces up to a column. -/
def BlockIndentation.widen (column : Nat) : BlockIndentation → BlockIndentation
  | .open widest => .open (max widest column)
  | .known n => .known n

/-- The column at which lines start, where text must be indented by at least `least`. -/
def BlockIndentation.column (least : Nat) : BlockIndentation → Nat
  | .open widest => max widest (max least 1)
  | .known n => n

/-- What is between two lines of text. -/
structure LineGap where
  /-- Does the line in front start with a blank? -/
  blankStart : Bool
  /-- The line break at the end of the line in front, if there is such a line. -/
  ending : List Char
  /-- The line breaks of the empty lines. -/
  breaks : List Char

/-- What the gap in front of a line stands for. -/
def LineGap.chars (g : LineGap) (literal blankStart : Bool) : List Char :=
  if !literal && g.ending = ['\n'] && !g.blankStart && !blankStart then
    if g.breaks.isEmpty then [' '] else g.breaks
  else g.ending ++ g.breaks

/-- What the gap behind the last line stands for. -/
def LineGap.endChars (g : LineGap) : Chomping → List Char
  | .clip => g.ending
  | .strip => []
  | .keep => g.ending ++ g.breaks

/-- Where in a block scalar reading is. -/
inductive BlockPart where
  | line (blankStart : Bool)
  | gap (indentation : BlockIndentation) (g : LineGap)

/-- The characters of a block scalar, and what is behind it. Its lines are indented by at least
`least`; `column` is their indentation as soon as there is a line. -/
def blockChars (literal : Bool) (chomping : Chomping) (least : Nat) (column : Nat) :
    BlockPart → Source → Except Fault (List Char × Source)
  | .line _, .ended m => return ([], .ended m)
  | .gap _ g, .ended m => return (g.endChars chomping, .ended m)
  | .line blankStart, .char c _ rest =>
    if isBreak c then
      blockChars literal chomping least column (.gap (.known column) ⟨blankStart, [c], []⟩) rest
    else do
      let (taken, behind) ← blockChars literal chomping least column (.line blankStart) rest
      return (c :: taken, behind)
  | .gap indentation g, .char c m rest =>
    if c = ' ' && indentation.covers m.column then
      blockChars literal chomping least column (.gap (indentation.widen (m.column + 1)) g) rest
    else if c = '\t' && indentation.covers m.column then
      blockFault start .tabForIndentation m
    else if isBreak c then
      blockChars literal chomping least column (.gap (indentation.widen m.column)
        { g with breaks := g.breaks ++ [c] }) rest
    else
      let column := (indentation.widen m.column).column least
      if m.column = column then do
        let blankStart := isBlank c
        let (taken, behind) ← blockChars literal chomping least column (.line blankStart) rest
        return (g.chars literal blankStart ++ c :: taken, behind)
      else return (g.endChars chomping, .char c m rest)

end

/-- The text of a block scalar of which the first character has been read, and what is behind it.
`indentation?` is that of its surroundings. -/
def Source.block (s : Source) (literal : Bool) (indentation? : Option Nat) (start : Mark) :
    Except Fault (String × Source) := do
  let (header, s) ← blockHeader start s
  let indentation := match header.indentation? with
    | some n => .known (indentation?.getD 0 + n)
    | none => .open 0
  let least := match indentation? with
    | some n => n + 1
    | none => 0
  let (taken, behind) ← blockChars start literal header.chomping least 0
    (.gap indentation ⟨false, [], []⟩) s
  return (String.ofList taken, behind)

end Vendoring.Yaml

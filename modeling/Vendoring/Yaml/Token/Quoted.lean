import Vendoring.Yaml.Fault
import Vendoring.Yaml.Source

/-!
# Quoted scalars

Between quotes, a gap of blank space stays as it is unless there is a line break in it. Then it is
folded: one line break becomes a space, and of more than one the first is left out. Single quotes
write a quote twice; double quotes have escapes, and an escaped line break leaves a gap that
is not a space.
-/

set_option autoImplicit false

namespace Vendoring.Yaml

/-- Blank space inside a scalar. -/
structure Gap where
  /-- The blanks in front of the first line break. -/
  blanks : List Char
  breaks : List Char
  /-- Is there an escaped line break in front? -/
  escaped : Bool
  deriving DecidableEq, Repr

namespace Gap

/-- No blank space. -/
def empty : Gap := ⟨[], [], false⟩

/-- Does it take up more than one line? -/
def crossesLine (g : Gap) : Bool := g.escaped || !g.breaks.isEmpty

/-- With one more blank or line break at the end. -/
def push (g : Gap) (c : Char) : Gap :=
  if isBreak c then { g with breaks := g.breaks ++ [c] }
  else if g.crossesLine then g
  else { g with blanks := g.blanks ++ [c] }

/-- What is left of line breaks: a single one is a space. -/
def foldBreaks : List Char → List Char
  | ['\n'] => [' ']
  | '\n' :: more => more
  | breaks => breaks

/-- The characters that the gap stands for. -/
def chars (g : Gap) : List Char :=
  if g.escaped then g.breaks
  else if g.breaks.isEmpty then g.blanks
  else foldBreaks g.breaks

end Gap

/-! ## Between quotes -/

/-- What an escape stands for. -/
inductive Escape where
  | char (c : Char)
  /-- A code point in so many hexadecimal digits. -/
  | code (digits : Nat)

/-- What the character behind a backslash stands for. -/
def Escape.ofChar? : Char → Option Escape
  | '0' => some (.char '\x00')
  | 'a' => some (.char '\x07')
  | 'b' => some (.char '\x08')
  | 't' => some (.char '\t')
  | '\t' => some (.char '\t')
  | 'n' => some (.char '\n')
  | 'v' => some (.char '\x0b')
  | 'f' => some (.char '\x0c')
  | 'r' => some (.char '\r')
  | 'e' => some (.char '\x1b')
  | ' ' => some (.char ' ')
  | '"' => some (.char '"')
  | '/' => some (.char '/')
  | '\\' => some (.char '\\')
  | 'N' => some (.char '\x85')
  | '_' => some (.char '\xa0')
  | 'L' => some (.char '\u2028')
  | 'P' => some (.char '\u2029')
  | 'x' => some (.code 2)
  | 'u' => some (.code 4)
  | 'U' => some (.code 8)
  | _ => none

/-- The character with a code, if there is one. -/
def charOfCode? (n : Nat) : Option Char :=
  if h : n.isValidChar then some (Char.ofNatAux n h) else none

/-- What is being read between quotes. -/
inductive QuotedPart where
  | text
  | gap (g : Gap)
  /-- An escape of which so many digits are missing, the value of those before them, and the place
  of the first one. -/
  | code (missing value : Nat) (mark : Mark)

section

variable (start : Mark)

/-- The text is malformed inside quotes. -/
def quotedFault (context : Context) (problem : Problem) (mark : Mark) : Fault :=
  .malformed problem mark (some (context, start))

/-- The characters up to the closing quote, and what is behind it. -/
def quotedChars (quote : Char) : QuotedPart → Source → Except Fault (List Char × Source)
  | .code missing value mark, .char c _ rest =>
    match hexValue? c with
    | none => .error (quotedFault start .quotedEscape .expectedHexNumber mark)
    | some digit =>
      let value := value * 16 + digit
      match missing with
      | more + 2 => quotedChars quote (.code (more + 1) value mark) rest
      | _ =>
        match charOfCode? value with
        | none => .error (quotedFault start .quotedEscape .invalidCode mark)
        | some c => do
          let (taken, behind) ← quotedChars quote .text rest
          return (c :: taken, behind)
  | .code _ _ mark, .ended _ => .error (quotedFault start .quotedEscape .expectedHexNumber mark)
  | _, .ended m => .error (quotedFault start .quotedScalar .unexpectedEnd m)
  | part, .char c m rest =>
    let g := match part with
      | .gap g => g
      | _ => .empty
    if isBlank c || isBreak c then quotedChars quote (.gap (g.push c)) rest
    else if (Source.char c m rest).partsDocuments then
      .error (quotedFault start .quotedScalar .unexpectedDocumentMarker m)
    else if c = quote then
      match quote, rest with
      | '\x27', .char '\x27' _ rest => do
        let (taken, behind) ← quotedChars quote .text rest
        return (g.chars ++ '\x27' :: taken, behind)
      | _, _ => return (g.chars, rest)
    else if quote = '"' && c = '\\' then
      match rest with
      | .ended _ => .error (quotedFault start .quotedEscape .unknownEscape m)
      | .char escaped _ rest =>
        if isBreak escaped then do
          let (taken, behind) ← quotedChars quote (.gap ⟨[], [], true⟩) rest
          return (g.chars ++ taken, behind)
        else
          match Escape.ofChar? escaped with
          | none => .error (quotedFault start .quotedEscape .unknownEscape m)
          | some (.char c) => do
            let (taken, behind) ← quotedChars quote .text rest
            return (g.chars ++ c :: taken, behind)
          | some (.code digits) => do
            let (taken, behind) ← quotedChars quote (.code digits 0 rest.mark) rest
            return (g.chars ++ taken, behind)
    else do
      let (taken, behind) ← quotedChars quote .text rest
      return (g.chars ++ c :: taken, behind)

end

/-- The text of a quoted scalar of which the opening quote has been read, and what is behind it. -/
def Source.quoted (s : Source) (quote : Char) (start : Mark) : Except Fault (String × Source) := do
  let (taken, behind) ← quotedChars start quote .text s
  return (String.ofList taken, behind)

end Vendoring.Yaml

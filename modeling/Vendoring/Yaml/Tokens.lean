import Vendoring.Yaml.Token.Block
import Vendoring.Yaml.Token.Plain
import Vendoring.Yaml.Token.Scan
import Vendoring.Yaml.Token.Tag

/-!
# The row of tokens

The character that comes next, and at times the ones behind it, tell which token starts there. Each
token has its own effect on keys and blocks. The tokens of a text are those that come before the
first fault and are not held back when it is found.
-/

set_option autoImplicit false

namespace Vendoring.Yaml

namespace Scan

/-! ## Between tokens -/

/-- Behind blank space and comments, starting inside a comment or not. A line break allows a key
unless a flow collection is open; where a key may start, a tab is not passed over. A mark of the
byte order at the start of a line is blank space too. -/
def passSpace (inFlow : Bool) : Bool → Bool → Source → Bool × Source
  | _, keyAllowed, .ended m => (keyAllowed, .ended m)
  | inComment, keyAllowed, .char c m rest =>
    if isBreak c then passSpace inFlow false (keyAllowed || !inFlow) rest
    else if inComment || c = '#' then passSpace inFlow true keyAllowed rest
    else if c = '\ufeff' && m.column = 0 then passSpace inFlow false keyAllowed rest
    else if c = ' ' || (c = '\t' && (inFlow || !keyAllowed)) then
      passSpace inFlow false keyAllowed rest
    else (keyAllowed, .char c m rest)

/-- At the next token. -/
def advance (s : Scan) : Except Fault Scan :=
  let (keyAllowed, rest) := passSpace s.inFlow false s.keyAllowed s.rest
  closeBlocks <$> dropStale { s with keyAllowed, rest }

/-! ## One token -/

/-- A directive. -/
def takeDirective (s : Scan) : Except Fault Scan := do
  let s ← s.closeAllBlocks.dropKey
  let (directive, rest) ← s.rest.directive
  let kind := match directive with
    | .version major minor => .version major minor
    | .tagHandle handle start => .tagHandle handle start
  return { s with keyAllowed := false }.push kind s.mark rest

/-- A line that parts documents. -/
def takeDocumentMarker (s : Scan) (kind : TokenKind) : Except Fault Scan := do
  let s ← s.closeAllBlocks.dropKey
  return { s with keyAllowed := false }.push kind s.mark s.rest.tail.tail.tail

/-- The start of a flow collection. -/
def takeFlowStart (s : Scan) (kind : TokenKind) : Except Fault Scan := do
  let s ← s.reserve
  return { s with key? := none, outerKeys := s.key? :: s.outerKeys, keyAllowed := true }.pushMark kind

/-- The end of a flow collection. -/
def takeFlowEnd (s : Scan) (kind : TokenKind) : Except Fault Scan := do
  let s ← s.dropKey
  let s := match s.outerKeys with
    | key :: outer => { s with key? := key, outerKeys := outer }
    | [] => s
  return { s with keyAllowed := false }.pushMark kind

/-- A comma inside a flow collection. -/
def takeFlowEntry (s : Scan) : Except Fault Scan := do
  let s ← s.dropKey
  return { s with keyAllowed := true }.pushMark .flowEntry

/-- In block context, a fault if no key may start here, else a block there. -/
def enterBlock (s : Scan) (kind : TokenKind) (problem : Problem) : Except Fault Scan :=
  if s.inFlow then return s
  else if s.keyAllowed then return s.openBlockHere kind
  else .error (.malformed problem s.mark none)

/-- A dash in front of an entry of a sequence. -/
def takeBlockEntry (s : Scan) : Except Fault Scan := do
  let s ← (← s.enterBlock .blockSequenceStart .entryNotAllowed).dropKey
  return { s with keyAllowed := true }.pushMark .blockEntry

/-- A question mark in front of a key. -/
def takeKey (s : Scan) : Except Fault Scan := do
  let s ← (← s.enterBlock .blockMappingStart .keyNotAllowed).dropKey
  return { s with keyAllowed := !s.inFlow }.pushMark .key

/-- A colon in front of a value. It fills the place that is reserved for a key, if there is one. -/
def takeValue (s : Scan) : Except Fault Scan :=
  match s.key? with
  | some key =>
    let (slots, s) := s.openBlock .blockMappingStart key.mark
    let slots := slots ++ [.token ⟨.key, key.mark, key.mark⟩]
    let held := s.held.flatMap fun slot => if slot = .reserved key.mark then slots else [slot]
    return { s with held, key? := none, keyAllowed := false }.pushMark .value
  | none => do
    let s ← s.enterBlock .blockMappingStart .valueNotAllowed
    return { s with keyAllowed := !s.inFlow }.pushMark .value

/-- An anchor or alias. -/
def takeName (s : Scan) (context : Context) (kind : String → TokenKind) : Except Fault Scan := do
  let s ← s.reserve
  let (name, rest) ← s.rest.tail.name context s.mark
  return { s with keyAllowed := false }.push (kind name) s.mark rest

/-- A tag. -/
def takeTag (s : Scan) : Except Fault Scan := do
  let s ← s.reserve
  let ((handle, suffix), rest) ← s.rest.tag s.inFlow
  return { s with keyAllowed := false }.push (.tag handle suffix) s.mark rest

/-- A block scalar. -/
def takeBlockScalar (s : Scan) (style : Style) : Except Fault Scan := do
  let s ← s.dropKey
  let (text, rest) ← s.rest.tail.block (style = .literal) s.columns.head? s.mark
  return { s with keyAllowed := true }.push (.scalar style text) s.mark rest

/-- A quoted scalar. -/
def takeQuoted (s : Scan) (style : Style) (quote : Char) : Except Fault Scan := do
  let s ← s.reserve
  let (text, rest) ← s.rest.tail.quoted quote s.mark
  return { s with keyAllowed := false }.push (.scalar style text) s.mark rest

/-- A plain scalar. -/
def takePlain (s : Scan) : Except Fault Scan := do
  let s ← s.reserve
  let least := match s.columns with
    | column :: _ => column + 1
    | [] => 0
  let run ← plainChars s.mark s.inFlow least .empty s.rest
  return { s with keyAllowed := run.crossedLine }.push (.scalar .plain (String.ofList run.chars))
    s.mark run.behind

/-- May a plain scalar start with the character? Some may only if text comes right behind them. -/
def startsPlain (inFlow : Bool) (c : Char) (rest : Source) : Bool :=
  if c = '-' then !(rest.next?.any isBlank)
  else if c = '?' || c = ':' then !inFlow && !rest.isSpaced
  else !(isBlank c || isFlowMark c || c = '#' || c = '&' || c = '*' || c = '!' || c = '|'
    || c = '>' || c = '\x27' || c = '"' || c = '%' || c = '@' || c = '\x60')

/-- The token that starts with the character that comes next. -/
def take (s : Scan) (c : Char) : Except Fault Scan :=
  let marksPart : Bool := s.inFlow || s.rest.tail.isSpaced
  if c = '%' && s.mark.column = 0 then s.takeDirective
  else if s.rest.isDocumentMarker '-' then s.takeDocumentMarker .documentStart
  else if s.rest.isDocumentMarker '.' then s.takeDocumentMarker .documentEnd
  else if c = '[' then s.takeFlowStart .flowSequenceStart
  else if c = '\x7b' then s.takeFlowStart .flowMappingStart
  else if c = ']' then s.takeFlowEnd .flowSequenceEnd
  else if c = '\x7d' then s.takeFlowEnd .flowMappingEnd
  else if c = ',' then s.takeFlowEntry
  else if c = '-' && s.rest.tail.isSpaced then s.takeBlockEntry
  else if c = '?' && marksPart then s.takeKey
  else if c = ':' && marksPart then s.takeValue
  else if c = '*' then s.takeName .aliasName .aliasOf
  else if c = '&' then s.takeName .anchor .anchor
  else if c = '!' then s.takeTag
  else if c = '|' && !s.inFlow then s.takeBlockScalar .literal
  else if c = '>' && !s.inFlow then s.takeBlockScalar .folded
  else if c = '\x27' then s.takeQuoted .singleQuoted c
  else if c = '"' then s.takeQuoted .doubleQuoted c
  else if startsPlain s.inFlow c s.rest.tail then s.takePlain
  else .error (.malformed .noTokenStart s.mark (some (.nextToken, s.mark)))

/-- The place behind the last line. -/
def lastMark (m : Mark) : Mark := if m.column = 0 then m else ⟨m.index, m.line + 1, 0⟩

/-- The end of a text. -/
def takeEnd (s : Scan) : Except Fault Scan := do
  let rest := Source.ended (lastMark s.mark)
  let s ← { s with rest }.closeAllBlocks.dropKey
  { s with keyAllowed := false }.push .endOfText s.mark rest |>.dropStale

end Scan

/-! ## All tokens -/

/-- The tokens of a text up to a fault. -/
structure Tokens where
  tokens : List Token
  fault? : Option Fault

namespace Tokens

/-- With tokens in front. -/
def after (front : List Token) (ts : Tokens) : Tokens := { ts with tokens := front ++ ts.tokens }

/-- The tokens that are still to come. Each takes a character at least, so it is enough to look for
as many as there are characters. -/
def ofScan : Nat → Scan → Tokens
  | 0, _ => ⟨[], none⟩
  | bound + 1, s =>
    let taken := do
      let s ← s.advance
      match s.rest with
      | .ended _ => return (true, ← s.takeEnd)
      | .char c _ _ => return (false, ← (← s.take c).dropStale)
    match taken with
    | .error fault => ⟨[], some fault⟩
    | .ok (ended, s) =>
      let (tokens, held) := Scan.settled s.held
      if ended then ⟨tokens, none⟩
      else (ofScan bound { s with held }).after tokens

/-- The tokens of a text. -/
def ofString (text : String) : Tokens :=
  match forbiddenOffset? text.toList with
  | some offset => ⟨[], some (.forbiddenCharacter offset)⟩
  | none =>
    let s := Source.ofString text
    ofScan (s.length + 1) (.start s)

end Tokens

end Vendoring.Yaml

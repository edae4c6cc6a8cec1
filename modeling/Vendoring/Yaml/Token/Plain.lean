import Vendoring.Yaml.Token.Quoted

/-!
# Plain scalars

A scalar without quotes ends in front of a comment, of a colon that ends a key, of a document
marker, of a line that is indented too little and, inside a flow collection, of the marks that part
its entries. Blank space inside it is folded as between quotes, and blank space at its end is passed
over with it.
-/

set_option autoImplicit false

namespace Vendoring.Yaml

/-- A plain scalar that has been read. -/
structure PlainRun where
  chars : List Char
  /-- Has a line break been passed over behind it? -/
  crossedLine : Bool
  behind : Source

section

variable (start : Mark) (inFlow : Bool) (indentation : Nat)

/-- Does a plain scalar end here at the latest, whatever blank space came before? -/
def endsPlain (g : Gap) (s : Source) : Bool :=
  match s with
  | .ended _ => true
  | .char c m rest =>
    (c = '#' && g != .empty)
      || s.partsDocuments
      || (!inFlow && g.crossesLine && m.column < indentation)
      || (c = ':' && rest.isSpaced)
      || (inFlow && isFlowMark c)

/-- The characters of a plain scalar, in front of which there is a gap. -/
def plainChars (g : Gap) : Source → Except Fault PlainRun
  | .ended m => return ⟨[], g.crossesLine, .ended m⟩
  | .char c m rest =>
    if isBlank c || isBreak c then
      if g.crossesLine && m.column < indentation && c = '\t' then
        .error (.malformed .tabBeforeText m (some (.plainScalar, start)))
      else plainChars (g.push c) rest
    else if endsPlain inFlow indentation g (.char c m rest) then
      return ⟨[], g.crossesLine, .char c m rest⟩
    else if inFlow && c = ':' && !rest.endsOr (fun d => !(isFlowMark d || d = '?')) then
      .error (.malformed .unexpectedColon m (some (.plainScalar, start)))
    else do
      let run ← plainChars .empty rest
      return { run with chars := g.chars ++ c :: run.chars }

end

end Vendoring.Yaml

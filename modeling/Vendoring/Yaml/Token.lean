import Vendoring.Yaml.Mark

/-!
# The tokens of a YAML text

A YAML text is a row of tokens. Those for blocks have no characters of their own: they stand for a
change of the indentation.
-/

set_option autoImplicit false

namespace Vendoring.Yaml

/-- How a scalar is written. -/
inductive Style where
  | plain
  | singleQuoted
  | doubleQuoted
  | literal
  | folded
  deriving DecidableEq, Repr

/-- What a token is. -/
inductive TokenKind where
  | endOfText
  | version (major minor : Nat)
  | tagHandle (handle start : String)
  | documentStart
  | documentEnd
  | blockSequenceStart
  | blockMappingStart
  | blockEnd
  | flowSequenceStart
  | flowSequenceEnd
  | flowMappingStart
  | flowMappingEnd
  | blockEntry
  | flowEntry
  | key
  | value
  | aliasOf (name : String)
  | anchor (name : String)
  | tag (handle suffix : String)
  | scalar (style : Style) (text : String)
  deriving DecidableEq, Repr

/-- A token. -/
structure Token where
  kind : TokenKind
  /-- Where it starts. -/
  mark : Mark
  /-- Where reading goes on behind it. -/
  finish : Mark
  deriving DecidableEq, Repr

end Vendoring.Yaml

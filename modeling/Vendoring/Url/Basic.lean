import Vendoring.Url.Percent

/-!
# URLs

A URL is kept in parts, each as it is written. Its text is the parts with the marks that go between
them, so a part that is missing differs from one that is empty.
-/

set_option autoImplicit false

namespace Vendoring

/-- A URL in parts. -/
structure Url where
  /-- In small letters. -/
  scheme : List Char
  /-- User, host and port, with the marks between them. -/
  authority : Option (List Char)
  /-- The path, with its slashes. -/
  path : List Char
  query : Option (List Char)
  fragment : Option (List Char)
  deriving DecidableEq, Repr

namespace Url

/-- A part behind its mark, if it is there. -/
def marked (mark : List Char) (part : Option (List Char)) : List Char :=
  match part with
  | some cs => mark ++ cs
  | none => []

/-- The path as it is written. Without an authority, a path with an empty first segment would be
taken for one, so it gets a segment that says nothing in front. -/
def shownPath (u : Url) : List Char :=
  if u.authority.isNone && ['/', '/'].isPrefixOf u.path then ['/', '.'] ++ u.path else u.path

/-- The characters of a URL. -/
def chars (u : Url) : List Char :=
  u.scheme ++ [':'] ++ marked ['/', '/'] u.authority ++ u.shownPath ++ marked ['?'] u.query
    ++ marked ['#'] u.fragment

/-- The text of a URL. -/
def text (u : Url) : String := String.ofList u.chars

/-- A name and a value as they stand in the query of a form. -/
def formPair (name value : List Char) : List Char := formEncode name ++ ['='] ++ formEncode value

/-- The query with a name and a value behind what is there. -/
def extendedQuery (query : Option (List Char)) (name value : List Char) : List Char :=
  match query with
  | none => formPair name value
  | some [] => formPair name value
  | some cs => cs ++ ['&'] ++ formPair name value

/-- The URL with one more name and value in its query. -/
def addParameter (u : Url) (name value : List Char) : Url :=
  { u with query := some (extendedQuery u.query name value) }

end Url

end Vendoring

/-!
# Local paths

A local path is text, and its meaning is the list of its components: `/` separates, empty segments
and inner `.` segments say nothing, `..` stays a component of its own because a link may stand
before it. The text is kept as it was written — reports and messages show it — so two paths with
the same components can be different paths.

The operations are lexical: `join`, `parents`, `extension?` and `resolve` never look at a disk.
-/

set_option autoImplicit false

namespace Vendoring

/-- A path as text, with `/` between the segments. -/
structure LocalPath where
  text : String
  deriving DecidableEq, Repr, Inhabited

/-- One step of a path. -/
inductive Component where
  /-- The start of an absolute path. -/
  | root
  /-- A leading `.`, which keeps a path relative to the current directory visible. -/
  | here
  | up
  | name (s : String)
  deriving DecidableEq, Repr

/-- A component as it is written. The root is the slash in front, so its own text is empty. -/
def Component.chars : Component → List Char
  | .root => []
  | .here => ['.']
  | .up => ['.', '.']
  | .name s => s.toList

namespace LocalPath

/-- The segments between the slashes; there is always a first one. -/
def splitSlash (cs : List Char) : List (List Char) := cs.splitOn '/'

/-- Segments put together again, with a slash between any two. -/
def joinSlash (segments : List (List Char)) : List Char := List.intercalate ['/'] segments

/-- A segment that stands for no step: an empty one or an inner `.`. -/
def isFiller (segment : List Char) : Bool := segment.isEmpty || segment == ['.']

/-- Does the text start at the root? -/
def isAbsolute (p : LocalPath) : Bool := p.text.toList.head? == some '/'

/-- The component that a segment after the first one stands for. -/
def innerComponent? (segment : List Char) : Option Component :=
  if isFiller segment then none
  else if segment = ['.', '.'] then some .up
  else some (.name (String.ofList segment))

/-- The component at the start: the root for an absolute path, `.` for a path that begins so. -/
def firstComponent? (absolute : Bool) (segment : List Char) : Option Component :=
  if absolute then some .root
  else if segment = ['.'] then some .here
  else innerComponent? segment

/-- The components in order. -/
def components (p : LocalPath) : List Component :=
  match splitSlash p.text.toList with
  | [] => []
  | first :: rest =>
    (firstComponent? p.isAbsolute first).toList ++ rest.filterMap innerComponent?

/-- The path with these components, in its shortest writing; `.` components are written too. -/
def ofComponents : List Component → LocalPath
  | .root :: rest => ⟨String.ofList ('/' :: joinSlash (rest.map Component.chars))⟩
  | components => ⟨String.ofList (joinSlash (components.map Component.chars))⟩

/-- `p` seen from `base`. An absolute `p` stands for itself; otherwise the two texts are put
together, with a slash between them where `base` is neither empty nor ends with one. -/
def join (base p : LocalPath) : LocalPath :=
  if p.isAbsolute then p
  else if base.text.toList.getLast?.all (· == '/') then ⟨base.text ++ p.text⟩
  else ⟨base.text ++ "/" ++ p.text⟩

/-- The segments after the first one of each parent, nearest parent first, all of them and the
argument read backwards. A parent ends where the step before its last one ends. -/
def parentBodies : List (List Char) → List (List (List Char))
  | [] => []
  | segment :: before =>
    if isFiller segment then parentBodies before
    else before.dropWhile isFiller :: parentBodies before

/-- The parent, its parent, and so on up to the root or the empty path. The parents' texts are
beginnings of the path's own text, cut behind a step. The root and the empty path have none. -/
def parents (p : LocalPath) : List LocalPath :=
  match splitSlash p.text.toList with
  | [] => []
  | first :: rest =>
    let bodies := parentBodies rest.reverse
    if p.isAbsolute then
      bodies.map fun body => ⟨String.ofList ('/' :: joinSlash body.reverse)⟩
    else
      bodies.map (fun body => ⟨String.ofList (joinSlash (first :: body.reverse))⟩)
        ++ (if first.isEmpty then [] else [⟨""⟩])

/-- The path without its last step. -/
def parent? (p : LocalPath) : Option LocalPath := p.parents.head?

/-- The name that the last step gives, if it gives one. -/
def fileName? (p : LocalPath) : Option String :=
  match p.components.getLast? with
  | some (.name s) => some s
  | _ => none

/-- What follows the last dot of a file name, unless that dot is the first character or there is
none: `a.tar.gz` has the extension `gz`, `a.` the empty one, `.gz` has none. -/
def extensionOfName? (name : List Char) : Option (List Char) :=
  let backwards := name.reverse
  match backwards.dropWhile (· != '.') with
  | [] => none
  | [_] => none
  | _ :: _ :: _ => some (backwards.takeWhile (· != '.')).reverse

/-- The extension of the file name. -/
def extension? (p : LocalPath) : Option String :=
  p.fileName?.bind fun name => (extensionOfName? name.toList).map String.ofList

/-- `p` as seen from `root`, in normal form: one slash between steps, no `.` component, and `.`
itself where nothing is left. A `..` is kept. -/
def resolve (root p : LocalPath) : LocalPath :=
  match (root.join p).components.filter (· != .here) with
  | [] => ⟨"."⟩
  | components => ofComponents components

end LocalPath

end Vendoring

import Vendoring.Bytes
import Vendoring.LocalPath

/-!
# A tree of files

What a disk holds, as a finite map from locations to nodes. A location is the list of names from a
node up to the root, **innermost name first**: the parent of `name :: dir` is `dir`, and the root
is `[]`, which is always a directory. There are no second names for one node, so a location
identifies it, and an operation on the tree is a change of the map at one location.

A tree also knows its current directory, from which relative paths start.
-/

set_option autoImplicit false

namespace Vendoring

/-- Can the characters stand as a name in a directory? A name is one step of a path: it is not
empty, holds no slash, and is neither `.` nor `..`. -/
def isFileName (cs : List Char) : Bool :=
  !cs.isEmpty && !cs.contains '/' && cs != ['.'] && cs != ['.', '.']

/-- The name of a directory entry. The disk allows any bytes; names that are not UTF-8 text are
kept apart, because no path text can spell them. -/
inductive FileName where
  | text (s : String) (proper : isFileName s.toList = true := by decide +kernel)
  /-- Bytes that are not valid UTF-8. -/
  | raw (bytes : ByteArray)
  deriving DecidableEq

namespace FileName

/-- The bytes of a name. -/
def bytes : FileName → ByteArray
  | text s _ => s.toUTF8
  | raw bytes => bytes

/-- The name that these characters spell, if they can stand as one. -/
def ofChars? (cs : List Char) : Option FileName :=
  if h : isFileName cs then some (.text (String.ofList cs) (by simpa using h)) else none

/-- The name with these bytes. -/
def ofBytes (bytes : ByteArray) : FileName :=
  ((String.fromUTF8? bytes).bind fun s => ofChars? s.toList).getD (.raw bytes)

end FileName

/-- The names from a node up to the root, innermost first. -/
abbrev Location := List FileName

/-- What stands at a location. -/
inductive Node where
  | directory
  | file (data : ByteArray)
  /-- A symbolic link, with the path it was made for. -/
  | link (target : LocalPath)
  deriving DecidableEq

/-- Is the node a directory itself? A link to one is not. -/
def Node.isDirectory : Node → Bool
  | .directory => true
  | _ => false

/-- The files below a root, with a current directory. -/
structure FileTree where
  nodes : List (Location × Node)
  cwd : Location
  distinct : (nodes.map Prod.fst).Nodup

namespace FileTree

/-- A tree that holds nothing but its current directory, which lies directly below the root. -/
def workingIn (name : FileName) : FileTree where
  nodes := [([name], .directory)]
  cwd := [name]
  distinct := by simp

/-- What stands at a location. -/
def node? (t : FileTree) (loc : Location) : Option Node :=
  if loc = [] then some .directory else t.nodes.lookup loc

/-- The nodes that satisfy `keep` by their location. -/
def restrict (t : FileTree) (keep : Location → Bool) : FileTree where
  nodes := t.nodes.filter fun entry => keep entry.1
  cwd := t.cwd
  distinct := t.distinct.sublist (List.filter_sublist.map _)

/-- The tree with `node` at `loc`, in place of whatever stood there. -/
def insert (t : FileTree) (loc : Location) (node : Node) : FileTree where
  nodes := (loc, node) :: (t.restrict (· != loc)).nodes
  cwd := t.cwd
  distinct := by
    refine List.nodup_cons.2 ⟨?_, (t.restrict (· != loc)).distinct⟩
    intro h
    obtain ⟨entry, hmem, rfl⟩ := List.mem_map.1 h
    simp [restrict] at hmem

/-- The entries directly inside a directory. -/
def entriesOf (t : FileTree) (dir : Location) : List (FileName × Node) :=
  t.nodes.filterMap fun entry =>
    match entry.1 with
    | name :: parent => if parent = dir then some (name, entry.2) else none
    | [] => none

end FileTree

end Vendoring

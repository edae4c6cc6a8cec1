import Vendoring.FileTree.Basic
import Vendoring.FileTree.Fault

/-!
# Paths as the file system reads them

The file system reads a path step by step: `.` stays, `..` goes up, a name goes down. Unlike the
components of `LocalPath`, every `.` counts here, since it can only be taken in a directory, and so
does a slash at the end.
-/

set_option autoImplicit false

namespace Vendoring

/-- One step along a path. -/
inductive Step where
  /-- A `.`: stay in this directory. -/
  | stay
  | up
  | down (name : FileName)
  /-- A slash at the end: what was reached has to be a directory. -/
  | enter
  deriving DecidableEq

/-- A path as steps from the root or from the directory in which it is read. -/
structure Route where
  absolute : Bool
  steps : List Step

namespace Route

/-- The steps that one segment between slashes stands for. -/
def stepOfSegment? (bytes : ByteArray) : Option Step :=
  if bytes.isEmpty then none
  else if bytes = ".".toUTF8 then some .stay
  else if bytes = "..".toUTF8 then some .up
  else some (.down (.ofBytes bytes))

/-- The step that one segment of a path's text stands for. -/
def stepOfText? (segment : List Char) : Option Step :=
  if segment = ['.'] then some .stay
  else if segment = ['.', '.'] then some .up
  else (FileName.ofChars? segment).map .down

/-- The route through these steps, of which the missing ones come from empty segments. -/
def ofSegments (segments : List (Option Step)) : Route where
  absolute := segments.length > 1 && segments.head? == some none
  steps :=
    let steps := segments.filterMap id
    if segments.getLast? == some none && !steps.isEmpty then steps ++ [.enter] else steps

/-- The route that a path's text spells. -/
def ofPath (p : LocalPath) : Route :=
  ofSegments ((LocalPath.splitSlash p.text.toList).map stepOfText?)

/-- The route that the bytes of a path spell, names that are no text included. -/
def ofBytes (bytes : List UInt8) : Route :=
  ofSegments ((bytes.splitOn 0x2F).map fun segment => stepOfSegment? segment.toByteArray)

/-- The longest path, in bytes, that the system accepts. -/
def maxLength : Nat := 4095

/-- The route of a path that the system is willing to look at: no NUL in it, not empty, not too
long. -/
def ofPath? (p : LocalPath) : Except FileFault Route :=
  if p.text.toList.contains '\x00' then .error .nulInName
  else if p.text.isEmpty then .error .notFound
  else if p.text.utf8ByteSize > maxLength then .error .nameTooLong
  else .ok (ofPath p)

end Route

end Vendoring

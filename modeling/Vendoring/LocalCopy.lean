import Vendoring.LocalPath
import Vendoring.Text.LowerCase

/-!
# Where a remote file is kept

The local copy of a remote tree is lower-cased and leaves the repository's top directory out:
`root/sub/File.cpp` is kept as `sub/file.cpp`. A remote path whose segments would step out of the
copy has no place in it (`localPath?`), and files with certain extensions are left out of it
(`isExcluded`).
-/

set_option autoImplicit false

namespace Vendoring

/-- The segments of a remote path that say something. -/
def remoteSegments (remotePath : String) : List (List Char) :=
  (LocalPath.splitSlash remotePath.toList).filter (!·.isEmpty)

/-- The lower-cased segment, unless it would be a step to the directory itself or to its parent. -/
def localSegment? (segment : List Char) : Option (List Char) :=
  let lowered := Text.lowerChars segment
  if lowered = ['.'] ∨ lowered = ['.', '.'] then none else some lowered

/-- The place of a remote path in the local copy: without its first segment, the others in lower
case. There is none for a path of fewer than two segments, nor for one with a `.` or `..` segment
after the first. -/
def localPath? (remotePath : String) : Option LocalPath :=
  match (remoteSegments remotePath).drop 1 with
  | [] => none
  | segments =>
    (segments.mapM localSegment?).map fun lowered =>
      ⟨String.ofList (LocalPath.joinSlash lowered)⟩

/-- Does the path have one of the extensions? The case of ASCII letters makes no difference. -/
def isExcluded (extensions : List String) (path : String) : Bool :=
  match LocalPath.extension? ⟨path⟩ with
  | some found => extensions.any (Text.equalIgnoringAsciiCase · found)
  | none => false

end Vendoring

import Vendoring.Url.Percent
import Vendoring.Url.Scheme

/-!
# Paths of URLs

The segments of a path are read one after the other: a segment that stands for the same directory
says nothing, and one that stands for its parent takes away the segment before it. Both leave an
empty segment if they are the last one, so the path still ends with a slash. A drive letter is
never taken away.
-/

set_option autoImplicit false

namespace Vendoring.Url

/-- A drive letter with a colon or a bar. -/
def isDriveLetter (segment : List Char) : Bool :=
  match segment with
  | [letter, mark] => letter.isAlpha && (mark = ':' || mark = '|')
  | _ => false

/-- What follows a dot, which can also be written in percent-encoding. -/
def stripDot? (cs : List Char) : Option (List Char) :=
  match cs with
  | '.' :: rest => some rest
  | '%' :: '2' :: 'e' :: rest => some rest
  | '%' :: '2' :: 'E' :: rest => some rest
  | _ => none

/-- Does the segment stand for the same directory? -/
def isSame (segment : List Char) : Bool := stripDot? segment == some []

/-- Does the segment stand for the parent directory? -/
def isParent (segment : List Char) : Bool := (stripDot? segment).bind stripDot? == some []

/-- The segments without the last one, unless that is a drive letter. -/
def withoutLast (segments : List (List Char)) : List (List Char) :=
  if segments.getLast?.any isDriveLetter then segments else segments.dropLast

/-- The segments so far with one more, of which `last` says whether it ends the path. -/
def addSegment (segments : List (List Char)) (segment : List Char) (last : Bool) :
    List (List Char) :=
  let ending := if last then [[]] else []
  if isParent segment then withoutLast segments ++ ending
  else if isSame segment then segments ++ ending
  else segments ++ [segment]

/-- The segments so far with more of them. -/
def addSegments (segments : List (List Char)) : List (List Char) → List (List Char)
  | [] => segments
  | segment :: more => addSegments (addSegment segments segment more.isEmpty) more

/-- The parts between slashes; there is always a first one. -/
def splitSegments (kind : SchemeKind) (cs : List Char) : List (List Char) :=
  cs.splitOnP kind.isSlash

/-- The segments of what follows the first slash of a path. -/
def readSegments (kind : SchemeKind) (cs : List Char) : List (List Char) :=
  addSegments [] ((splitSegments kind cs).map (percentEncode escapedInPath))

/-- A path of segments. -/
def pathChars (segments : List (List Char)) : List Char :=
  segments.flatMap fun segment => '/' :: segment

/-! ## Paths of files -/

/-- The first segment of a file's path as one or two: what follows a drive letter is put into a
segment of its own, and the bar behind the letter becomes a colon. -/
def splitDrive (segments : List (List Char)) : List (List Char) :=
  match segments with
  | (letter :: ':' :: c :: rest) :: more =>
    if letter.isAlpha then [letter, ':'] :: (c :: rest) :: more else segments
  | [letter, '|'] :: more => if letter.isAlpha then [letter, ':'] :: more else segments
  | _ => segments

/-- The segments of a file's path, which has none that are empty in front. -/
def readFileSegments (cs : List Char) : List (List Char) :=
  let given := splitDrive ((splitSegments .file cs).map (percentEncode escapedInPath))
  let segments := addSegments [] given
  match segments.dropWhile List.isEmpty with
  | [] => [[]]
  | kept => kept

/-- Does the first segment of a file's path consist of a drive letter? -/
def startsWithDrive (cs : List Char) : Bool :=
  (splitSegments .file cs).head?.any isDriveLetter

end Vendoring.Url

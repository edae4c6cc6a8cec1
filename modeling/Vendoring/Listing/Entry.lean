/-!
# Entries of a remote directory

A listing describes each entry of a directory by its name, its path from the top of the repository
and its kind. What can be downloaded has an address for its content; the address of its listing
is there for every entry, whether or not there is anything to list.
-/

set_option autoImplicit false

namespace Vendoring

/-- What an entry says it is. -/
inductive EntryKind where
  | file
  | directory
  /-- Anything else, for instance a link or another repository. -/
  | other
  deriving DecidableEq, Repr

/-- The kind that a tag stands for. -/
def EntryKind.ofTag (tag : String) : EntryKind :=
  if tag = "file" then .file else if tag = "dir" then .directory else .other

/-- The tag of a kind. -/
def EntryKind.tag : EntryKind → String
  | file => "file"
  | directory => "dir"
  | other => "other"

/-- One entry of a remote directory. -/
structure Entry where
  name : String
  path : String
  kind : EntryKind
  downloadUrl? : Option String
  listingUrl : String
  deriving DecidableEq, Repr

namespace Entry

/-- Whatever has content to download is a file, also if its kind says otherwise. -/
def isFile (e : Entry) : Bool := e.downloadUrl?.isSome

/-- A directory says so and has no content. -/
def isDirectory (e : Entry) : Bool := e.downloadUrl?.isNone && e.kind = .directory

end Entry

end Vendoring

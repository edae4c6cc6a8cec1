import Vendoring.Json.Value
import Vendoring.Listing.Entry

/-!
# Reading a listing

A listing is a JSON list of entries. An entry is an object, of whose members five are read and the
others ignored, or a list of the five values in a fixed order. A listing with one fault anywhere
is refused as a whole, with the first fault and its place.
-/

set_option autoImplicit false

namespace Vendoring

open Json

namespace Listing

/-- The members of an entry, in the order of its list form. -/
inductive Field where
  | name
  | path
  | kind
  | downloadUrl
  | listingUrl
  deriving DecidableEq, Repr

/-- The key of a member. -/
def Field.key : Field → String
  | name => "name"
  | path => "path"
  | kind => "type"
  | downloadUrl => "download_url"
  | listingUrl => "url"

/-- All members. -/
def Field.all : List Field := [name, path, kind, downloadUrl, listingUrl]

/-- The member with a key. -/
def Field.ofKey? (key : String) : Option Field := all.find? (·.key == key)

/-- What is known of an entry while its members are read. -/
structure Draft where
  name : Option String
  path : Option String
  kind : Option EntryKind
  downloadUrl : Option (Option String)
  listingUrl : Option String

namespace Draft

/-- Nothing is known. -/
def empty : Draft := ⟨none, none, none, none, none⟩

/-- Has the member been read? -/
def has (d : Draft) : Field → Bool
  | .name => d.name.isSome
  | .path => d.path.isSome
  | .kind => d.kind.isSome
  | .downloadUrl => d.downloadUrl.isSome
  | .listingUrl => d.listingUrl.isSome

/-- What stands for a member that has to be there. -/
def require {α : Type} (field : Field) (value : Option α) : Except Cause α :=
  match value with
  | some a => .ok a
  | none => .error (.missingField field.key)

/-- The entry, if nothing is missing. Only the download address can be left out. -/
def entry (d : Draft) : Except Cause Entry := do
  let name ← require .name d.name
  let path ← require .path d.path
  let kind ← require .kind d.kind
  let listingUrl ← require .listingUrl d.listingUrl
  pure ⟨name, path, kind, d.downloadUrl.getD none, listingUrl⟩

end Draft

/-- Takes the kind of an entry: its tag, or an object with the tag as the one key and `null`. -/
def kindValue : Reader EntryKind := do
  match ← Reader.peekSolid with
  | none => Reader.failNext .endInValue
  | some (.char '"') => EntryKind.ofTag <$> Reader.text
  | some (.char '\x7b') =>
    Reader.advance
    match ← Reader.peekSolid with
    | none => Reader.failNext .endInValue
    | some (.char '"') =>
      let tag ← Reader.text
      Reader.colon
      Reader.nullValue
      match ← Reader.peekSolid with
      | none => Reader.failHere .endInObject
      | some (.char '\x7d') => Reader.advance; pure (.ofTag tag)
      | some _ => Reader.failHere .expectedValue
    | some (.char '\x7d') => Reader.failNext .expectedValue
    | some _ => Reader.failNext .keyNotText
  | some _ => Reader.failNext .expectedValue

/-- Takes the value of a member. -/
def readField (d : Draft) : Field → Reader Draft
  | .name => do pure { d with name := some (← Reader.textValue) }
  | .path => do pure { d with path := some (← Reader.textValue) }
  | .kind => do pure { d with kind := some (← kindValue) }
  | .downloadUrl => do pure { d with downloadUrl := some (← Reader.optionalTextValue) }
  | .listingUrl => do pure { d with listingUrl := some (← Reader.textValue) }

/-- Takes the members of an object behind its bracket. A key for the second time refuses the entry.
The first number bounds the members. -/
def readMembers : Nat → Bool → Draft → Reader (Except Cause Draft)
  | 0, _, _ => Reader.failNext .endInObject
  | bound + 1, first, d => do
    if ← Reader.hasMember first then
      match Field.ofKey? (← Reader.text) with
      | none => do
        Reader.colon
        Reader.skipValue
        readMembers bound false d
      | some field =>
        if d.has field then pure (.error (.duplicateField field.key))
        else do
          Reader.colon
          readMembers bound false (← readField d field)
    else pure (.ok d)

/-- The words for what an entry has to be. -/
def entryWords : String := "struct DirectoryEntry"

/-- The words for what an entry in its list form has to be. -/
def entryListWords : String := "struct DirectoryEntry with 5 elements"

/-- Takes the values of a list behind its bracket, one for each field. The download address can be
left out only where nothing follows it, and since the listing address has to, never. -/
def readValues : Nat → List Field → Draft → Reader Draft
  | _, [], d => pure d
  | index, field :: fields, d => do
    if ← Reader.hasElement (index == 0) then
      readValues (index + 1) fields (← readField d field)
    else if field = .downloadUrl then readValues (index + 1) fields d
    else Reader.failBehind .list (.wrongLength index entryListWords)

/-- Takes an entry. -/
def readEntry : Reader Entry := do
  match ← Reader.peekSolid with
  | none => Reader.failNext .endInValue
  | some (.char '\x7b') =>
    Reader.advance
    let members ← readMembers ((← get).rest.length + 1) true .empty
    match members.bind Draft.entry with
    | .ok entry => Reader.advance; pure entry
    | .error cause => Reader.failBehind .object cause
  | some (.char '[') =>
    Reader.advance
    let d ← readValues 0 Field.all .empty
    Reader.endList
    match d.entry with
    | .ok entry => pure entry
    | .error cause => Reader.failHere cause
  | some _ => Reader.refuseValue entryWords

/-- Takes the entries of a list behind its bracket. The first number bounds them. -/
def readEntries : Nat → Bool → Reader (List Entry)
  | 0, _ => Reader.failNext .endInList
  | bound + 1, first => do
    if ← Reader.hasElement first then
      let entry ← readEntry
      pure (entry :: (← readEntries bound false))
    else pure []

/-- Takes a listing. -/
def readListing : Reader (List Entry) := do
  match ← Reader.peekSolid with
  | none => Reader.failNext .endInValue
  | some (.char '[') =>
    Reader.advance
    let entries ← readEntries ((← get).rest.length + 1) true
    Reader.advance
    if (← Reader.peekSolid).isSome then Reader.failNext .trailingCharacters
    pure entries
  | some _ => Reader.refuseValue "a sequence"

/-- The entries that the bytes of a listing describe. -/
def ofBytes (bytes : ByteArray) : Except Json.Fault (List Entry) :=
  (readListing.run (.ofBytes bytes)).map Prod.fst

end Listing

end Vendoring

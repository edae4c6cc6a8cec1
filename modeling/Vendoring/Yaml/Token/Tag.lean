import Vendoring.Yaml.Fault
import Vendoring.Yaml.Source

/-!
# Names, tags and directives

Anchors and aliases have names. A tag is written out between angle brackets, or with a handle that
a directive explains. Directives also tell the version of the language.
-/

set_option autoImplicit false

namespace Vendoring.Yaml

/-- The text is malformed inside something that began at `start`. -/
def faultIn {α : Type} (context : Context) (start : Mark) (problem : Problem) (s : Source) :
    Except Fault α :=
  .error (.malformed problem s.mark (some (context, start)))

/-! ## Anchors and aliases -/

/-- May the character stand right behind the name of an anchor? -/
def endsName (c : Char) : Bool :=
  isBlank c || isBreak c || c = '?' || c = ':' || c = ',' || c = ']' || c = '\x7d' || c = '%'
    || c = '@' || c = '\x60'

/-- The name of an anchor or alias. -/
def Source.name (s : Source) (context : Context) (start : Mark) :
    Except Fault (String × Source) :=
  let (taken, behind) := s.span isWord
  if taken.isEmpty || !behind.endsOr endsName then faultIn context start .expectedWord behind
  else return (String.ofList taken, behind)

/-! ## Tags -/

/-- May the character stand in a tag? -/
def isTagChar (c : Char) : Bool :=
  isWord c || c = ';' || c = '/' || c = '?' || c = ':' || c = '@' || c = '&' || c = '='
    || c = '+' || c = '$' || c = '.' || c = '%' || c = '!' || c = '~' || c = '*'
    || c = '\x27' || c = '(' || c = ')'

/-- May the character stand in a tag that is written out? -/
def isUriChar (c : Char) : Bool := isTagChar c || c = ',' || c = '[' || c = ']'

/-- How many bytes a character takes in UTF-8 by its first byte. -/
def utf8Width? (byte : Nat) : Option Nat :=
  if byte < 0x80 then some 1
  else if byte < 0xC0 then none
  else if byte < 0xE0 then some 2
  else if byte < 0xF0 then some 3
  else if byte < 0xF8 then some 4
  else none

/-- The character with these bytes, or the replacement character if there is none. -/
def charOfBytes (bytes : List Nat) : Char :=
  match (String.fromUTF8? (bytes.map Nat.toUInt8).toByteArray).map String.toList with
  | some [c] => c
  | _ => '\ufffd'

section

variable (context : Context) (start : Mark)

/-- The characters of an address, in which bytes are written in hexadecimal digits behind a percent
sign. Of a character that has been begun so, there are the bytes, and how many are missing. -/
def uriChars (allowed : Char → Bool) :
    Option (List Nat × Nat) → Source → Except Fault (List Char × Source)
  | open?, .char '%' m (.char c₁ _ (.char c₀ _ rest)) =>
    match hexValue? c₁, hexValue? c₀ with
    | some high, some low => do
      let byte := high * 16 + low
      let (bytes, missing) ← match open? with
        | none =>
          match utf8Width? byte with
          | some width => pure ([byte], width - 1)
          | none => faultIn context start .wrongLeadingOctet (.ended m)
        | some (bytes, missing) =>
          if 0x80 ≤ byte ∧ byte < 0xC0 then pure (bytes ++ [byte], missing - 1)
          else faultIn context start .wrongTrailingOctet (.ended m)
      if missing = 0 then
        let (taken, behind) ← uriChars allowed none rest
        return (charOfBytes bytes :: taken, behind)
      else uriChars allowed (some (bytes, missing)) rest
    | _, _ => faultIn context start .expectedOctet (.ended m)
  | some _, s => faultIn context start .expectedOctet s
  | none, .ended m => return ([], .ended m)
  | none, .char c m rest =>
    if c = '%' then faultIn context start .expectedOctet (.ended m)
    else if allowed c then do
      let (taken, behind) ← uriChars allowed none rest
      return (c :: taken, behind)
    else return ([], .char c m rest)

/-- An address, which may be empty only if something comes before it. -/
def Source.uri (s : Source) (allowed : Char → Bool) (mayBeEmpty : Bool) :
    Except Fault (List Char × Source) := do
  let (taken, behind) ← uriChars context start allowed none s
  if taken.isEmpty && !mayBeEmpty then faultIn context start .expectedUri behind
  else return (taken, behind)

end

/-- A tag handle: an exclamation mark, then perhaps a name, then perhaps another one. -/
def Source.handle (s : Source) (context : Context) (start : Mark) :
    Except Fault (List Char × Source) :=
  if s.next? = some '!' then
    let (name, behind) := s.tail.span isWord
    if behind.next? = some '!' then return ('!' :: name ++ ['!'], behind.tail)
    else return ('!' :: name, behind)
  else faultIn context start .expectedExclamationMark s

/-- A tag, as a handle and what comes behind it. A tag that is written out has no handle, and
neither has the lone exclamation mark. -/
def Source.tag (s : Source) (inFlow : Bool) : Except Fault ((String × String) × Source) := do
  let start := s.mark
  let ((handle, suffix), behind) ←
    if s.tail.next? = some '<' then do
      let (uri, behind) ← s.tail.tail.uri .tagUri start isUriChar false
      if behind.next? = some '>' then pure ((([] : List Char), uri), behind.tail)
      else faultIn .tag start .expectedTagEnd behind
    else do
      let (handle, behind) ← s.handle .tag start
      if 2 ≤ handle.length && handle.getLast? = some '!' then do
        let (suffix, behind) ← behind.uri .tagUri start isTagChar false
        pure ((handle, suffix), behind)
      else do
        let (suffix, behind) ← behind.uri .tagUri start isTagChar true
        match handle.drop 1 ++ suffix with
        | [] => pure (([], ['!']), behind)
        | suffix => pure ((['!'], suffix), behind)
  if behind.isSpaced || (inFlow && behind.next? = some ',') then
    return ((String.ofList handle, String.ofList suffix), behind)
  else faultIn .tag start .expectedBlankOrBreak behind

/-! ## Directives -/

/-- What a directive says. -/
inductive Directive where
  | version (major minor : Nat)
  | tagHandle (handle start : String)

/-- The most digits of a version number. -/
def maxVersionDigits : Nat := 9

/-- A number of a version. -/
def Source.versionNumber (s : Source) (start : Mark) : Except Fault (Nat × Source) :=
  let rec digits (count value : Nat) : Source → Except Fault (Nat × Source)
    | .ended m => finish count value (.ended m)
    | .char c m rest =>
      if c.isDigit then
        if count < maxVersionDigits then
          digits (count + 1) (value * 10 + (c.toNat - '0'.toNat)) rest
        else faultIn .versionDirective start .versionTooLong (.ended m)
      else finish count value (.char c m rest)
  digits 0 0 s
where
  /-- Behind the digits, of which there must be one. -/
  finish (count value : Nat) (s : Source) : Except Fault (Nat × Source) :=
    if count = 0 then faultIn .versionDirective start .expectedVersion s else return (value, s)

/-- What a version directive says. -/
def Source.version (s : Source) (start : Mark) : Except Fault (Directive × Source) := do
  let (major, s) ← (s.dropWhile isBlank).versionNumber start
  if s.next? = some '.' then
    let (minor, s) ← s.tail.versionNumber start
    return (.version major minor, s)
  else faultIn .versionDirective start .expectedVersionPoint s

/-- What a tag directive says. -/
def Source.tagDirective (s : Source) (start : Mark) : Except Fault (Directive × Source) := do
  let (handle, s) ← (s.dropWhile isBlank).handle .tagDirectiveHandle start
  if handle.getLast? ≠ some '!' then
    faultIn .tagDirectiveHandleEnd start .expectedExclamationMark s
  else if !(s.next?.any isBlank) then faultIn .tagDirective start .expectedBlank s
  else
    let (uri, s) ← (s.dropWhile isBlank).uri .tagDirectiveUri start isUriChar false
    if s.isSpaced then return (.tagHandle (String.ofList handle) (String.ofList uri), s)
    else faultIn .tagDirective start .expectedBlankOrBreak s

/-- A directive, whose percent sign comes next, and the line behind it. -/
def Source.directive (s : Source) : Except Fault (Directive × Source) := do
  let start := s.mark
  let (name, s) := s.tail.span isWord
  if name.isEmpty then faultIn .directive start .expectedDirectiveName s
  else if !s.isSpaced then faultIn .directive start .unexpectedInDirectiveName s
  else
    let (directive, s) ←
      match String.ofList name with
      | "YAML" => s.version start
      | "TAG" => s.tagDirective start
      | _ => faultIn .directive start .unknownDirective s
    let s := (s.dropWhile isBlank).dropComment
    if s.endsLine then return (directive, s.tail)
    else faultIn .directive start .expectedCommentOrBreak s

end Vendoring.Yaml

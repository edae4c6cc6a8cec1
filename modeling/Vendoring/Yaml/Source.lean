import Vendoring.Yaml.Mark

/-!
# A YAML text as it is read

Every character of a text comes with its place. Line breaks have a few forms: a line feed, a
carriage return, both together and the next-line character all count as a line feed, while the line
and paragraph separators stay what they are.
-/

set_option autoImplicit false

namespace Vendoring.Yaml

/-! ## Classes of characters -/

/-- Does the character end a line? -/
def isBreak (c : Char) : Bool := c = '\n' || c = '\u2028' || c = '\u2029'

/-- Is the character a space or a tab? -/
def isBlank (c : Char) : Bool := c = ' ' || c = '\t'

/-- May the character stand in the name of an anchor, a tag handle or a directive? -/
def isWord (c : Char) : Bool := c.isAlphanum || c = '_' || c = '-'

/-- Does the character end or part the entries of a flow collection? -/
def isFlowMark (c : Char) : Bool :=
  c = ',' || c = '[' || c = ']' || c = '\x7b' || c = '\x7d'

/-- The value of a hexadecimal digit. -/
def hexValue? (c : Char) : Option Nat :=
  if '0' ≤ c ∧ c ≤ '9' then some (c.toNat - '0'.toNat)
  else if 'a' ≤ c ∧ c ≤ 'f' then some (c.toNat - 'a'.toNat + 10)
  else if 'A' ≤ c ∧ c ≤ 'F' then some (c.toNat - 'A'.toNat + 10)
  else none

/-- May the character stand in a text at all? -/
def isAllowed (c : Char) : Bool :=
  c = '\t' || c = '\n' || c = '\r' || c = '\x85'
    || (' ' ≤ c && c ≤ '~') || ('\xa0' ≤ c && c ≤ '\ufffd') || '\uffff' < c

/-- How many bytes come before the first character that may not stand in a text. -/
def forbiddenOffset? : List Char → Option Nat
  | [] => none
  | c :: rest => if isAllowed c then (forbiddenOffset? rest).map (· + c.utf8Size) else some 0

/-! ## Characters with their places -/

/-- The rest of a text. -/
inductive Source where
  | ended (mark : Mark)
  | char (c : Char) (mark : Mark) (rest : Source)

namespace Source

/-- The text in the characters, which starts at a place. -/
def ofChars (m : Mark) : List Char → Source
  | [] => ended m
  | '\r' :: '\n' :: rest => char '\n' m (ofChars (m.nextLine 2) rest)
  | c :: rest =>
    if c = '\r' || c = '\x85' then char '\n' m (ofChars (m.nextLine 1) rest)
    else if isBreak c then char c m (ofChars (m.nextLine 1) rest)
    else char c m (ofChars m.next rest)

/-- A whole text. -/
def ofString (s : String) : Source := ofChars .start s.toList

/-- The place that has been reached. -/
def mark : Source → Mark
  | ended m => m
  | char _ m _ => m

/-- How many characters are left. -/
def length : Source → Nat
  | ended _ => 0
  | char _ _ rest => rest.length + 1

/-- The next character. -/
def next? : Source → Option Char
  | ended _ => none
  | char c _ _ => some c

/-- Behind the next character. -/
def tail : Source → Source
  | ended m => ended m
  | char _ _ rest => rest

/-- Is this the end, or does a character of a class come next? -/
def endsOr (p : Char → Bool) : Source → Bool
  | ended _ => true
  | char c _ _ => p c

/-- Is this the end, or does a blank or a line break come next? -/
def isSpaced (s : Source) : Bool := s.endsOr fun c => isBlank c || isBreak c

/-- Is this the end of a line? -/
def endsLine (s : Source) : Bool := s.endsOr isBreak

/-- The characters of a class that come next, and what is behind them. -/
def span (p : Char → Bool) : Source → List Char × Source
  | ended m => ([], ended m)
  | char c m rest =>
    if p c then
      let (taken, behind) := rest.span p
      (c :: taken, behind)
    else ([], char c m rest)

/-- Behind the characters of a class that come next. -/
def dropWhile (p : Char → Bool) (s : Source) : Source := (s.span p).2

/-- Behind the comment that comes next, if there is one. -/
def dropComment (s : Source) : Source :=
  if s.next? = some '#' then s.dropWhile (!isBreak ·) else s

/-- Does the line start with three times `c`, and nothing behind them? -/
def isDocumentMarker (c : Char) : Source → Bool
  | char c₁ m (char c₂ _ (char c₃ _ rest)) =>
    m.column = 0 && c₁ = c && c₂ = c && c₃ = c && rest.isSpaced
  | _ => false

/-- Does the line part two documents? -/
def partsDocuments (s : Source) : Bool := s.isDocumentMarker '-' || s.isDocumentMarker '.'

/-! ## Texts of one line -/

/-- Does a line break start with the character? -/
def startsBreak (c : Char) : Bool := isBreak c || c = '\r' || c = '\x85'

theorem ofChars_cons (m : Mark) {c : Char} (rest : List Char) (h : startsBreak c = false) :
    ofChars m (c :: rest) = char c m (ofChars m.next rest) := by
  simp only [startsBreak, Bool.or_eq_false_iff, decide_eq_false_iff_not] at h
  obtain ⟨⟨hbreak, hreturn⟩, hnext⟩ := h
  rw [ofChars]
  · simp [hbreak, hreturn, hnext]
  · intro _ hc
    exact absurd hc hreturn

end Source

end Vendoring.Yaml

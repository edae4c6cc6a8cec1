import Mathlib.Data.List.DropRight
import Vendoring.Proofs.Url.Decode
import Vendoring.Proofs.Url.Parts

/-!
# Addresses under a plain domain name

A domain name in small letters, digits, hyphens and dots is read as itself (`PlainDomain`). So of an
address that begins with one, and with names in front of its path, everything in front is kept, and
**what becomes of the rest is decided by the rest alone** (`ofChars_plain`): `pathPart` is what is
left of it for the path, and that is all of it unless it holds a mark or a blank in the wrong place.
-/

set_option autoImplicit false

namespace Vendoring.Url

/-! ## Plain characters -/

/-- A character of a domain name that is read as itself. -/
def isDomainChar (c : Char) : Bool := c.isLower || c.isDigit || c = '-' || c = '.'

/-- A character that stands for itself in a path, and is no dot. -/
def isNameChar (c : Char) : Bool := c.isAlphanum || c = '-'

theorem toNat_lt_of_isAlphanum {c : Char} (h : c.isAlphanum = true) : c.toNat < 128 := by
  rcases Bool.or_eq_true_iff.1 h with hletter | hdigit
  · rcases Bool.or_eq_true_iff.1 hletter with hupper | hlower
    · have hlast : c ≤ 'Z' := (of_decide_eq_true hupper).2
      exact Nat.lt_of_le_of_lt hlast (by decide)
    · have hlast : c ≤ 'z' := of_decide_eq_true (Bool.and_eq_true_iff.1 hlower).2
      exact Nat.lt_of_le_of_lt hlast (by decide)
  · have hlast : c ≤ '9' := of_decide_eq_true (Bool.and_eq_true_iff.1 hdigit).2
    exact Nat.lt_of_le_of_lt hlast (by decide)

/-- **A character of a domain name has no meaning of its own.** -/
theorem isForbiddenAscii_of_isDomainChar {c : Char} (h : isDomainChar c = true) :
    isAscii c = true ∧ c.toLower = c ∧ isForbiddenAscii c = false := by
  have hascii : c.toNat < 128 := by
    simp only [isDomainChar, Bool.or_eq_true, decide_eq_true_eq] at h
    rcases h with ((hlower | hdigit) | rfl) | rfl
    · have hletter : c.isAlpha = true := Bool.or_eq_true_iff.2 (.inr hlower)
      exact toNat_lt_of_isAlphanum (Bool.or_eq_true_iff.2 (.inl hletter))
    · exact toNat_lt_of_isAlphanum (Bool.or_eq_true_iff.2 (.inr hdigit))
    · decide
    · decide
  exact forall_ascii (P := fun c => isDomainChar c = true →
    isAscii c = true ∧ c.toLower = c ∧ isForbiddenAscii c = false) (by decide) hascii h

theorem isForbiddenAscii_of_isNameChar {c : Char} (h : isNameChar c = true) :
    isForbiddenAscii c = false ∧ escapedInPath c = false ∧ c ≠ '.' := by
  have hascii : c.toNat < 128 := by
    simp only [isNameChar, Bool.or_eq_true, decide_eq_true_eq] at h
    rcases h with h | rfl
    · exact toNat_lt_of_isAlphanum h
    · decide
  exact forall_ascii (P := fun c => isNameChar c = true →
    isForbiddenAscii c = false ∧ escapedInPath c = false ∧ c ≠ '.') (by decide) hascii h

/-- A character with a meaning of its own is none of those that may stand in a host. -/
theorem ne_of_isForbiddenAscii {c d : Char} (hc : isForbiddenAscii c = false)
    (hd : isForbiddenAscii d = true) : c ≠ d := by
  rintro rfl
  rw [hc] at hd
  cases hd

theorem isEdge_of_isForbiddenAscii {c : Char} (h : isForbiddenAscii c = false) :
    isEdge c = false := by
  simp only [isForbiddenAscii, Bool.or_eq_false_iff] at h
  simp [isEdge, h]

theorem isSlash_of_isForbiddenAscii {c : Char} (h : isForbiddenAscii c = false)
    (kind : SchemeKind) : kind.isSlash c = false := by
  simp [SchemeKind.isSlash, ne_of_isForbiddenAscii h (d := '/') rfl,
    ne_of_isForbiddenAscii h (d := '\\') rfl]

/-! ## Plain names -/

theorem infix_intercalate {separator part : List Char} {parts : List (List Char)}
    (h : part ∈ parts) : part <:+: List.intercalate separator parts := by
  induction parts with
  | nil => cases h
  | cons first parts ih =>
    cases parts with
    | nil =>
      simp [List.mem_singleton.1 h]
    | cons next parts =>
      rw [List.intercalate_cons_cons]
      rcases List.mem_cons.1 h with rfl | h
      · exact ((List.prefix_append _ _).trans (List.prefix_append _ _)).isInfix
      · exact (ih h).trans (List.suffix_append _ _).isInfix

/-- What stands between two marks stands in the text. -/
theorem infix_of_mem_splitOn {d : Char} {cs part : List Char} (h : part ∈ cs.splitOn d) :
    part <:+: cs := by
  have hwithin : part <:+: List.intercalate [d] (cs.splitOn d) := infix_intercalate h
  rwa [List.intercalate_splitOn] at hwithin

/-- A domain name that is read as itself: it is no address, and no part of it is in Punycode. -/
structure PlainDomain (host : List Char) : Prop where
  ne_nil : host ≠ []
  chars : ∀ c ∈ host, isDomainChar c = true
  labels : ∀ label ∈ host.splitOn '.', ¬ punycodeMark <+: label
  number : endsInNumber host = false

namespace PlainDomain

variable {host : List Char}

theorem allowed (h : PlainDomain host) {c : Char} (hc : c ∈ host) : isForbiddenAscii c = false :=
  (isForbiddenAscii_of_isDomainChar (h.chars c hc)).2.2

theorem not_mem (h : PlainDomain host) {d : Char} (hd : isForbiddenAscii d = true) : d ∉ host :=
  fun hmem => ne_of_isForbiddenAscii (h.allowed hmem) hd rfl

theorem map_toLower {cs : List Char} (h : ∀ c ∈ cs, isDomainChar c = true) :
    cs.map Char.toLower = cs := by
  have hsame : ∀ c ∈ cs, c.toLower = id c := fun c hc =>
    (isForbiddenAscii_of_isDomainChar (h c hc)).2.1
  rw [List.map_congr_left hsame, List.map_id]

theorem domain?_eq (h : PlainDomain host) : domain? host = some host := by
  have hlabels : ((host.splitOn '.').all fun label =>
      !punycodeMark.isPrefixOf (label.map Char.toLower)) = true := by
    refine List.all_eq_true.2 fun label hlabel => ?_
    have hchars : ∀ c ∈ label, isDomainChar c = true := fun c hc =>
      h.chars c ((infix_of_mem_splitOn hlabel).subset hc)
    rw [map_toLower hchars, Bool.not_eq_true', Bool.eq_false_iff, ne_eq, List.isPrefixOf_iff_prefix]
    exact h.labels label hlabel
  have hascii : host.all isAscii = true := List.all_eq_true.2 fun c hc =>
    (isForbiddenAscii_of_isDomainChar (h.chars c hc)).1
  have hallowed : host.any isForbiddenAscii = false := List.any_eq_false.2 fun c hc => by
    simp [h.allowed hc]
  have hplain : isPlainDomain host = true := by rw [isPlainDomain, hascii, hlabels]; rfl
  rw [domain?, asciiForm?, if_pos hplain, map_toLower h.chars, Option.bind_some, hallowed]
  rfl

theorem namedHost_eq (h : PlainDomain host) : namedHost host = .ok host := by
  have hdecode : percentDecode host = utf8 host := by
    refine percentDecode_of_not_holdsByte ?_
    rintro ⟨a, b, -, -, hwithin⟩
    exact h.not_mem rfl (hwithin.subset List.mem_cons_self)
  have hdomain : (textOfBytes? (percentDecode host)).bind domain? = some host := by
    rw [hdecode, utf8, textOfBytes?_utf8, Option.bind_some, h.domain?_eq]
  unfold namedHost
  rw [hdomain]
  cases host with
  | nil => exact absurd rfl h.ne_nil
  | cons c host => exact if_neg (by simp [h.number])

end PlainDomain

/-- A segment of a path that stands for itself. -/
def IsPlainSegment (segment : List Char) : Prop := ∀ c ∈ segment, isNameChar c = true

namespace IsPlainSegment

variable {segment : List Char}

theorem allowed (h : IsPlainSegment segment) {c : Char} (hc : c ∈ segment) :
    isForbiddenAscii c = false :=
  (isForbiddenAscii_of_isNameChar (h c hc)).1

theorem percentEncode_eq (h : IsPlainSegment segment) :
    percentEncode escapedInPath segment = segment := by
  induction segment with
  | nil => rfl
  | cons c segment ih =>
    obtain ⟨hc, hsegment⟩ := List.forall_mem_cons.1 h
    rw [percentEncode_cons, ih hsegment, pathChar,
      if_neg (by simp [(isForbiddenAscii_of_isNameChar hc).2.1])]
    rfl

theorem isDots_eq (h : IsPlainSegment segment) : isDots segment = false := by
  have hstrip : stripDot? segment = none := by
    cases segment with
    | nil => rfl
    | cons c segment =>
      obtain ⟨hc, -⟩ := List.forall_mem_cons.1 h
      have hdot := (isForbiddenAscii_of_isNameChar hc).2.2
      have hpercent : c ≠ '%' :=
        ne_of_isForbiddenAscii (isForbiddenAscii_of_isNameChar hc).1 rfl
      simp [stripDot?, hdot, hpercent]
  simp [isDots, isSame, isParent, hstrip]

end IsPlainSegment

/-! ## Reading what is in front -/

variable {host : List Char}

theorem splitPort_of_not_mem {cs : List Char} (h : ':' ∉ cs) (inside : Bool) :
    splitPort inside cs = (cs, none) := by
  induction cs generalizing inside with
  | nil => rfl
  | cons c cs ih =>
    simp only [List.mem_cons, not_or] at h
    simp [splitPort, Ne.symm h.1, ih h.2]

theorem PlainDomain.webAuthority_eq (h : PlainDomain host) (defaultPort : Nat) :
    webAuthority defaultPort host = .ok host := by
  have huser : splitUser host = (none, host) := by
    have hat : host.reverse.dropWhile (· ≠ '@') = [] := List.dropWhile_eq_nil_iff.2 fun c hc =>
      decide_eq_true (ne_of_isForbiddenAscii (h.allowed (List.mem_reverse.1 hc)) rfl)
    simp only [splitUser, hat]
  have hspecial : specialHost host = .ok host := by
    unfold specialHost
    split
    · exact absurd rfl h.ne_nil
    · exact absurd List.mem_cons_self (h.not_mem rfl)
    · exact h.namedHost_eq
  simp only [webAuthority, huser, splitPort_of_not_mem (h.not_mem (d := ':') rfl), hspecial]
  simp [portChars, userChars, splitAtMark, percentEncode, bind, Except.bind, pure, Except.pure]

/-- The scheme of a service. -/
def serviceScheme (secure : Bool) : List Char :=
  if secure then ['h', 't', 't', 'p', 's'] else ['h', 't', 't', 'p']

/-- The text in front of the path of an address. -/
def origin (secure : Bool) (host : List Char) : List Char :=
  serviceScheme secure ++ [':', '/', '/'] ++ host

def serviceKind (secure : Bool) : SchemeKind := .web (if secure then 443 else 80)

theorem splitAtMark_append {d : Char} {front : List Char} (h : d ∉ front) (cs : List Char) :
    splitAtMark d (front ++ cs) = (front ++ (splitAtMark d cs).1, (splitAtMark d cs).2) := by
  have hpass : ∀ a ∈ front, decide (a ≠ d) = true := fun a ha =>
    decide_eq_true fun heq => h (heq ▸ ha)
  unfold splitAtMark
  rw [List.dropWhile_append_of_pos hpass, List.takeWhile_append_of_pos hpass]
  split <;> rfl

theorem splitAtMark_of_not_mem {d : Char} {cs : List Char} (h : d ∉ cs) :
    splitAtMark d cs = (cs, none) := by
  have hmarked := splitAtMark_append_marked h none
  rwa [marked, List.append_nil] at hmarked

theorem splitAtMark_eq_self_iff {d : Char} {cs : List Char} :
    (splitAtMark d cs).1 = cs ↔ d ∉ cs := by
  constructor
  · intro h hmem
    have hnot : d ∉ (splitAtMark d cs).1 := not_mem_splitAtMark cs
    rw [h] at hnot
    exact hnot hmem
  · intro h
    rw [splitAtMark_of_not_mem h]

/-- What counts of a text behind others. -/
def kept (cs : List Char) : List Char := (cs.rdropWhile isEdge).filter (!isLineOrTab ·)

theorem isEdge_of_isLineOrTab {c : Char} (h : isEdge c = false) : isLineOrTab c = false := by
  by_contra hline
  simp only [isLineOrTab, Bool.not_eq_false, Bool.or_eq_true, decide_eq_true_eq] at hline
  rcases hline with (rfl | rfl) | rfl <;> exact absurd h (by decide)

theorem cleaned_append {front : List Char} (hne : front ≠ []) (h : ∀ c ∈ front, isEdge c = false)
    (cs : List Char) : cleaned (front ++ cs) = front ++ kept cs := by
  obtain ⟨first, more, rfl⟩ := List.exists_cons_of_ne_nil hne
  have hfirst : isEdge first = false := h first List.mem_cons_self
  have hline : ((first :: more).filter (!isLineOrTab ·)) = first :: more :=
    List.filter_eq_self.2 fun c hc => by simp [isEdge_of_isLineOrTab (h c hc)]
  have hfront : (first :: more).reverse.dropWhile isEdge = (first :: more).reverse := by
    cases hback : (first :: more).reverse with
    | nil => simp at hback
    | cons c rest =>
      have hc : c ∈ first :: more := List.mem_reverse.1 (by rw [hback]; exact List.mem_cons_self)
      exact List.dropWhile_cons_of_neg (by simp [h c hc])
  have hback : (first :: more ++ cs).rdropWhile isEdge = first :: more ++ cs.rdropWhile isEdge := by
    rw [List.rdropWhile, List.rdropWhile, List.reverse_append, List.dropWhile_append]
    split
    · next hempty => rw [hfront, List.reverse_reverse, List.isEmpty_iff.1 hempty]; simp
    · rw [List.reverse_append, List.reverse_reverse]
  have hdrop : (first :: more ++ cs).dropWhile isEdge = first :: more ++ cs :=
    List.dropWhile_cons_of_neg (by simp [hfirst])
  rw [cleaned, hdrop]
  change ((first :: more ++ cs).rdropWhile isEdge).filter _ = _
  rw [hback, List.filter_append, hline, kept]

/-! ## Reading what is behind -/

/-- The segments that a text is read as. -/
def encoded (kind : SchemeKind) (cs : List Char) : List (List Char) :=
  (splitSegments kind cs).map (percentEncode escapedInPath)

/-- What is left of a text for a path that it stands in. -/
def pathPart (cs : List Char) : List Char := (splitAtMark '?' (splitAtMark '#' (kept cs)).1).1

theorem splitAtMark_sublist (d : Char) (cs : List Char) : ((splitAtMark d cs).1).Sublist cs := by
  unfold splitAtMark
  split
  · exact List.Sublist.refl cs
  · exact List.takeWhile_sublist _

theorem kept_sublist (cs : List Char) : (kept cs).Sublist cs :=
  List.filter_sublist.trans (List.rdropWhile_prefix isEdge cs).sublist

theorem pathPart_sublist (cs : List Char) : (pathPart cs).Sublist cs :=
  (splitAtMark_sublist _ _).trans ((splitAtMark_sublist _ _).trans (kept_sublist cs))

/-- A text that stays whole in a path: no mark ends it, and no blank is dropped from it. -/
structure StaysWhole (cs : List Char) : Prop where
  hash : '#' ∉ cs
  question : '?' ∉ cs
  lines : ∀ c ∈ cs, isLineOrTab c = false
  last : ∀ c, cs.getLast? = some c → isEdge c = false

theorem eq_of_between {as bs cs : List Char} (hfront : as.Sublist bs) (hback : bs.Sublist cs)
    (h : as = cs) : bs = cs := by
  subst h
  exact hback.antisymm hfront

theorem kept_eq_self_iff {cs : List Char} : kept cs = cs ↔
    (∀ c ∈ cs, isLineOrTab c = false) ∧ ∀ c, cs.getLast? = some c → isEdge c = false := by
  constructor
  · intro h
    have hdrop : cs.rdropWhile isEdge = cs :=
      eq_of_between List.filter_sublist (List.rdropWhile_prefix isEdge cs).sublist h
    rw [kept, hdrop, List.filter_eq_self] at h
    refine ⟨fun c hc => by simpa using h c hc, fun c hc => ?_⟩
    obtain ⟨front, rfl⟩ := List.getLast?_eq_some_iff.1 hc
    simpa using List.rdropWhile_eq_self_iff.1 hdrop (by simp)
  · rintro ⟨hlines, hlast⟩
    have hdrop : cs.rdropWhile isEdge = cs := List.rdropWhile_eq_self_iff.2 fun hne => by
      simp [hlast _ (List.getLast?_eq_some_getLast hne)]
    rw [kept, hdrop, List.filter_eq_self]
    exact fun c hc => by simp [hlines c hc]

theorem pathPart_eq_self_iff {cs : List Char} : pathPart cs = cs ↔ StaysWhole cs := by
  constructor
  · intro h
    have hbefore : (splitAtMark '#' (kept cs)).1 = cs := eq_of_between (splitAtMark_sublist _ _)
      ((splitAtMark_sublist _ _).trans (kept_sublist cs)) h
    have hkept : kept cs = cs := eq_of_between (splitAtMark_sublist _ _) (kept_sublist cs) hbefore
    obtain ⟨hlines, hlast⟩ := kept_eq_self_iff.1 hkept
    rw [pathPart, hbefore] at h
    rw [hkept] at hbefore
    exact ⟨splitAtMark_eq_self_iff.1 hbefore, splitAtMark_eq_self_iff.1 h, hlines, hlast⟩
  · intro h
    rw [pathPart, kept_eq_self_iff.2 ⟨h.lines, h.last⟩, splitAtMark_eq_self_iff.2 h.hash,
      splitAtMark_eq_self_iff.2 h.question]

theorem exists_pathChars_append (segments : List (List Char)) (cs : List Char) :
    ∃ rest, pathChars segments ++ '/' :: cs = '/' :: rest := by
  cases segments with
  | nil => exact ⟨cs, rfl⟩
  | cons segment segments => exact ⟨_, rfl⟩

/-- The segments behind the first slash of a path are those in front and those of the rest. -/
theorem splitSegments_pathChars (kind : SchemeKind) {segments : List (List Char)}
    (h : ∀ segment ∈ segments, IsPlainSegment segment) (cs : List Char) :
    splitSegments kind (behindSlash kind (pathChars segments ++ '/' :: cs)) =
      segments ++ splitSegments kind cs := by
  have hslash : kind.isSlash '/' = true := by simp [SchemeKind.isSlash]
  have hbehind (cs : List Char) : behindSlash kind ('/' :: cs) = cs := by
    simp [behindSlash, hslash]
  induction segments with
  | nil =>
    change splitSegments kind (behindSlash kind ('/' :: cs)) = _
    rw [hbehind]
    rfl
  | cons segment segments ih =>
    obtain ⟨hsegment, hsegments⟩ := List.forall_mem_cons.1 h
    have hplain : ∀ c ∈ segment, kind.isSlash c = false := fun c hc =>
      isSlash_of_isForbiddenAscii (hsegment.allowed hc) kind
    obtain ⟨rest, hrest⟩ := exists_pathChars_append segments cs
    have htext : pathChars (segment :: segments) ++ '/' :: cs =
        '/' :: (segment ++ '/' :: rest) := by
      rw [← hrest]
      simp [pathChars]
    have ih' := ih hsegments
    rw [hrest, hbehind] at ih'
    rw [htext, hbehind, splitSegments, List.splitOnP_append_cons _ _ hslash,
      List.splitOnP_eq_singleton hplain]
    change segment :: splitSegments kind rest = _
    rw [ih']
    rfl

theorem addSegments_plain {segments : List (List Char)}
    (h : ∀ segment ∈ segments, IsPlainSegment segment) (before more : List (List Char)) :
    addSegments before (segments ++ more) = addSegments (before ++ segments) more := by
  induction segments generalizing before with
  | nil => rw [List.nil_append, List.append_nil]
  | cons segment segments ih =>
    obtain ⟨hsegment, hsegments⟩ := List.forall_mem_cons.1 h
    have hdots : isParent segment = false ∧ isSame segment = false := by
      have hnot := hsegment.isDots_eq
      rw [isDots, Bool.or_eq_false_iff] at hnot
      exact hnot.symm
    have hadd (last : Bool) : addSegment before segment last = before ++ [segment] := by
      simp [addSegment, hdots]
    rw [List.cons_append, addSegments, hadd, ih hsegments, List.append_assoc,
      List.singleton_append]

theorem webPlace_of_split {defaultPort : Nat} {cs authority path : List Char}
    (hsplit : cs.dropWhile (SchemeKind.web defaultPort).isSlash = authority ++ path)
    (hauthority : (authority ++ path).takeWhile (!(SchemeKind.web defaultPort).isSlash ·) =
      authority) :
    webPlace defaultPort cs = (do
      pure (some (← webAuthority defaultPort authority),
        pathChars (readSegments (.web defaultPort) (behindSlash (.web defaultPort) path)))) := by
  simp only [webPlace, hsplit, hauthority, List.drop_left]

theorem PlainDomain.webPlace_eq (h : PlainDomain host) (defaultPort : Nat)
    {segments : List (List Char)} (hsegments : ∀ segment ∈ segments, IsPlainSegment segment)
    (cs : List Char) :
    webPlace defaultPort ('/' :: '/' :: (host ++ (pathChars segments ++ '/' :: cs))) =
      .ok (some host, pathChars (addSegments segments (encoded (.web defaultPort) cs))) := by
  have hhost : ∀ c ∈ host, (SchemeKind.web defaultPort).isSlash c = false := fun c hc =>
    isSlash_of_isForbiddenAscii (h.allowed hc) _
  have hslash : (SchemeKind.web defaultPort).isSlash '/' = true := by simp [SchemeKind.isSlash]
  obtain ⟨rest, hrest⟩ := exists_pathChars_append segments cs
  have hsplit : ('/' :: '/' :: (host ++ (pathChars segments ++ '/' :: cs))).dropWhile
      (SchemeKind.web defaultPort).isSlash = host ++ (pathChars segments ++ '/' :: cs) := by
    rw [List.dropWhile_cons_of_pos hslash, List.dropWhile_cons_of_pos hslash]
    obtain ⟨c, host, rfl⟩ := List.exists_cons_of_ne_nil h.ne_nil
    exact List.dropWhile_cons_of_neg (by simp [hhost c List.mem_cons_self])
  have hauthority : (host ++ (pathChars segments ++ '/' :: cs)).takeWhile
      (!(SchemeKind.web defaultPort).isSlash ·) = host := by
    rw [List.takeWhile_append_of_pos fun c hc => by simp [hhost c hc], hrest,
      List.takeWhile_cons_of_neg (by simp [hslash]), List.append_nil]
  have hencode : segments.map (percentEncode escapedInPath) = segments :=
    (List.map_congr_left fun s hs => (hsegments s hs).percentEncode_eq).trans (List.map_id segments)
  rw [webPlace_of_split hsplit hauthority, h.webAuthority_eq, readSegments,
    splitSegments_pathChars _ hsegments, List.map_append, hencode, addSegments_plain hsegments]
  rfl

theorem ofChars_of_parts {cs scheme rest before hierarchy path : List Char}
    {fragment query authority : Option (List Char)}
    (hscheme : splitScheme? (cleaned cs) = some (scheme, rest))
    (hbefore : splitAtMark '#' rest = (before, fragment))
    (hhierarchy : splitAtMark '?' before = (hierarchy, query))
    (hplace : place (SchemeKind.ofScheme scheme) hierarchy = .ok (authority, path)) :
    ofChars cs = .ok {
      scheme, authority, path
      query := query.map
        (percentEncode (escapedInQuery (SchemeKind.ofScheme scheme).isSpecial))
      fragment := fragment.map (percentEncode escapedInFragment) } := by
  simp only [ofChars, hscheme, hbefore, hhierarchy, hplace]
  rfl

/-- What stands between the scheme and the rest. -/
def front (host : List Char) (segments : List (List Char)) : List Char :=
  '/' :: '/' :: (host ++ (pathChars segments ++ ['/']))

section

variable {segments : List (List Char)}

theorem PlainDomain.front_cases (h : PlainDomain host)
    (hsegments : ∀ segment ∈ segments, IsPlainSegment segment) :
    ∀ c ∈ front host segments, c = '/' ∨ isForbiddenAscii c = false := by
  have hpath : ∀ c ∈ pathChars segments, c = '/' ∨ isForbiddenAscii c = false := by
    intro c hc
    obtain ⟨segment, hsegment, hc⟩ := List.mem_flatMap.1 hc
    exact (List.mem_cons.1 hc).imp id (hsegments segment hsegment).allowed
  intro c hc
  simp only [front, List.mem_cons, List.mem_append, List.not_mem_nil, or_false] at hc
  rcases hc with rfl | rfl | hc | hc | rfl
  · exact .inl rfl
  · exact .inl rfl
  · exact .inr (h.allowed hc)
  · exact hpath c hc
  · exact .inl rfl

theorem PlainDomain.not_mem_front (h : PlainDomain host)
    (hsegments : ∀ segment ∈ segments, IsPlainSegment segment) {d : Char} (hd : IsMark d) :
    d ∉ front host segments := by
  intro hmem
  have hforbidden : isForbiddenAscii d = true := by rcases hd with rfl | rfl <;> rfl
  rcases h.front_cases hsegments d hmem with rfl | hallowed
  · rcases hd with hd | hd <;> cases hd
  · exact ne_of_isForbiddenAscii hallowed hforbidden rfl

/-- Blanks count only in the rest. -/
theorem PlainDomain.cleaned_eq (h : PlainDomain host) (secure : Bool)
    (hsegments : ∀ segment ∈ segments, IsPlainSegment segment) (cs : List Char) :
    cleaned (origin secure host ++ pathChars segments ++ '/' :: cs) =
      serviceScheme secure ++ ':' :: (front host segments ++ kept cs) := by
  have hscheme : ∀ c ∈ serviceScheme secure ++ [':'], isEdge c = false := by
    cases secure <;> simp [serviceScheme, isEdge]
  have hfront : ∀ c ∈ front host segments, isEdge c = false := by
    intro c hc
    rcases h.front_cases hsegments c hc with rfl | hc
    · rfl
    · exact isEdge_of_isForbiddenAscii hc
  have hedge : ∀ c ∈ serviceScheme secure ++ ':' :: front host segments, isEdge c = false := by
    rw [List.append_cons, List.forall_mem_append]
    exact ⟨hscheme, hfront⟩
  have htext : origin secure host ++ pathChars segments ++ '/' :: cs =
      (serviceScheme secure ++ ':' :: front host segments) ++ cs := by simp [origin, front]
  rw [htext, cleaned_append (by simp) hedge]
  simp

/-- **What is read behind a plain host and plain segments depends on the rest alone.** -/
theorem PlainDomain.ofChars_eq (h : PlainDomain host) (secure : Bool)
    (hsegments : ∀ segment ∈ segments, IsPlainSegment segment) (cs : List Char) :
    ∃ u, ofChars (origin secure host ++ pathChars segments ++ '/' :: cs) = .ok u ∧
      u.scheme = serviceScheme secure ∧ u.authority = some host ∧
      u.path = pathChars (addSegments segments (encoded (serviceKind secure) (pathPart cs))) ∧
      (StaysWhole cs → u.query = none ∧ u.fragment = none) := by
  have hscheme : splitScheme? (cleaned (origin secure host ++ pathChars segments ++ '/' :: cs)) =
      some (serviceScheme secure, front host segments ++ kept cs) := by
    rw [h.cleaned_eq secure hsegments]
    cases secure <;> rfl
  have hkind : SchemeKind.ofScheme (serviceScheme secure) = serviceKind secure := by
    cases secure <;> rfl
  have hplace : place (SchemeKind.ofScheme (serviceScheme secure))
      (front host segments ++ pathPart cs) = .ok (some host,
        pathChars (addSegments segments (encoded (serviceKind secure) (pathPart cs)))) := by
    have htext : front host segments ++ pathPart cs =
        '/' :: '/' :: (host ++ (pathChars segments ++ '/' :: pathPart cs)) := by simp [front]
    rw [hkind, htext]
    exact h.webPlace_eq _ hsegments (pathPart cs)
  have hmark {d : Char} (hd : IsMark d) : d ∉ front host segments := h.not_mem_front hsegments hd
  refine ⟨_, ofChars_of_parts hscheme (splitAtMark_append (hmark (.inr rfl)) _)
    (splitAtMark_append (hmark (.inl rfl)) _) hplace, rfl, rfl, rfl, fun hwhole => ?_⟩
  have hkept : kept cs = cs := kept_eq_self_iff.2 ⟨hwhole.lines, hwhole.last⟩
  simp [hkept, splitAtMark_of_not_mem hwhole.hash, splitAtMark_of_not_mem hwhole.question]

end

end Vendoring.Url

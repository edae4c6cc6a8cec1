import Mathlib.Data.List.TakeWhile
import Vendoring.Url.Read

/-!
# The characters that end a part

A question mark ends what stands in front of the query, and a hash what stands in front of the
fragment. What is read as a scheme, an authority and a path has been cut off in front of both. **No
mark gets into these parts afterwards** (`IsMark.not_mem_scheme`, `IsMark.not_mem_place`), neither
by decoding a host nor by writing an address or a path anew.
-/

set_option autoImplicit false

namespace Vendoring.Url

/-- The characters that end a part of a URL. -/
def IsMark (d : Char) : Prop := d = '?' ∨ d = '#'

section Marks

variable {d : Char}

theorem IsMark.not_mem (hd : IsMark d) {cs : List Char} (h : '?' ∉ cs ∧ '#' ∉ cs) : d ∉ cs := by
  rcases hd with rfl | rfl
  · exact h.1
  · exact h.2

theorem IsMark.ne (hd : IsMark d) {c : Char} (h : '?' ≠ c ∧ '#' ≠ c) : d ≠ c := by
  rcases hd with rfl | rfl
  · exact h.1
  · exact h.2

/-! ## Percent-encoding and numbers -/

theorem IsMark.not_mem_percentByte (hd : IsMark d) (b : UInt8) : d ∉ percentByte b := by
  have hdigit : ∀ n < 16, '?' ≠ hexDigit n ∧ '#' ≠ hexDigit n := by decide
  have hhigh : b.toNat / 16 < 16 := by
    have := b.toNat_lt
    omega
  have hlow : b.toNat % 16 < 16 := by omega
  rcases hd with rfl | rfl
  · simp [percentByte, (hdigit _ hhigh).1, (hdigit _ hlow).1]
  · simp [percentByte, (hdigit _ hhigh).2, (hdigit _ hlow).2]

theorem IsMark.isEscaped (hd : IsMark d) : escapedInPath d = true := by
  rcases hd with rfl | rfl <;> rfl

/-- A mark is in no text in percent-encoding, unless it was there and may stand for itself. -/
theorem IsMark.not_mem_percentEncode (hd : IsMark d) {escaped : Char → Bool} {cs : List Char}
    (h : escaped d = true ∨ d ∉ cs) : d ∉ percentEncode escaped cs := by
  rw [percentEncode, List.mem_flatMap]
  rintro ⟨c, hc, hmem⟩
  split at hmem
  · obtain ⟨b, -, hb⟩ := List.mem_flatMap.1 hmem
    exact hd.not_mem_percentByte b hb
  · next hescaped =>
    obtain rfl : d = c := List.mem_singleton.1 hmem
    exact h.elim hescaped fun hcs => hcs hc

theorem IsMark.not_mem_formEncode (hd : IsMark d) (cs : List Char) : d ∉ formEncode cs := by
  have hplain : plainInForm d = false := by rcases hd with rfl | rfl <;> rfl
  have hplus : d ≠ '+' := hd.ne (by decide)
  rw [formEncode, List.mem_flatMap]
  rintro ⟨c, -, hmem⟩
  split at hmem
  · next hc =>
    rw [← List.mem_singleton.1 hmem, hplain] at hc
    cases hc
  · split at hmem
    · exact hplus (List.mem_singleton.1 hmem)
    · obtain ⟨b, -, hb⟩ := List.mem_flatMap.1 hmem
      exact hd.not_mem_percentByte b hb

theorem mem_toDigits {b n : Nat} (hb : 1 < b) {c : Char} (h : c ∈ Nat.toDigits b n) :
    ∃ m, c = Nat.digitChar m := by
  induction n using Nat.strongRecOn with
  | ind n ih =>
    rw [Nat.toDigits_eq_if hb] at h
    split at h
    · exact ⟨n, List.mem_singleton.1 h⟩
    · next hn =>
      rcases List.mem_append.1 h with h | h
      · exact ih _ (Nat.div_lt_self (by omega) hb) h
      · exact ⟨_, List.mem_singleton.1 h⟩

theorem IsMark.ne_digitChar (hd : IsMark d) (m : Nat) : d ≠ Nat.digitChar m := by
  have hsmall : ∀ m < 16, '?' ≠ Nat.digitChar m ∧ '#' ≠ Nat.digitChar m := by decide
  by_cases hm : m < 16
  · rcases hd with rfl | rfl
    · exact (hsmall m hm).1
    · exact (hsmall m hm).2
  · rw [Nat.digitChar_eq_star.2 (by omega)]
    rcases hd with rfl | rfl <;> decide

theorem IsMark.not_mem_toDigits (hd : IsMark d) {b : Nat} (hb : 1 < b) (n : Nat) :
    d ∉ Nat.toDigits b n := by
  intro h
  obtain ⟨m, hm⟩ := mem_toDigits hb h
  exact hd.ne_digitChar m hm

theorem not_mem_intercalate {separator : List Char} {parts : List (List Char)}
    (hseparator : d ∉ separator) (hparts : ∀ part ∈ parts, d ∉ part) :
    d ∉ List.intercalate separator parts := by
  induction parts with
  | nil => simp
  | cons part parts ih =>
    obtain ⟨hpart, hothers⟩ := List.forall_mem_cons.1 hparts
    cases parts with
    | nil => rwa [List.intercalate_singleton]
    | cons next parts =>
      rw [List.intercalate_cons_cons, List.mem_append, List.mem_append]
      rintro ((h | h) | h)
      · exact hpart h
      · exact hseparator h
      · exact ih hothers h

/-! ## Hosts -/

theorem IsMark.not_mem_ipv4Chars (hd : IsMark d) (n : Nat) : d ∉ ipv4Chars n := by
  refine not_mem_intercalate (hd.not_mem (by decide)) fun part hpart => ?_
  obtain ⟨k, -, rfl⟩ := List.mem_map.1 hpart
  exact hd.not_mem_toDigits (by decide) k

theorem IsMark.not_mem_groupChars (hd : IsMark d) (groups : List Nat) : d ∉ groupChars groups := by
  refine not_mem_intercalate (hd.not_mem (by decide)) fun part hpart => ?_
  obtain ⟨k, -, rfl⟩ := List.mem_map.1 hpart
  exact hd.not_mem_toDigits (by decide) k

theorem IsMark.not_mem_ipv6Chars (hd : IsMark d) (groups : List Nat) : d ∉ ipv6Chars groups := by
  have hcolons : d ∉ [':', ':'] := hd.not_mem (by decide)
  unfold ipv6Chars
  split
  split
  · exact hd.not_mem_groupChars _
  · simp only [List.mem_append, not_or]
    exact ⟨⟨hd.not_mem_groupChars _, hcolons⟩, hd.not_mem_groupChars _⟩

theorem IsMark.not_mem_bracketedHost (hd : IsMark d) {cs host : List Char}
    (h : bracketedHost cs = .ok host) : d ∉ host := by
  have hopen : d ≠ '[' := hd.ne (by decide)
  have hclose : d ≠ ']' := hd.ne (by decide)
  unfold bracketedHost at h
  split at h
  · split at h
    · next groups _ =>
      obtain rfl := Except.ok.inj h
      simp [hopen, hclose, hd.not_mem_ipv6Chars groups]
    · exact absurd h nofun
  · exact absurd h nofun

theorem IsMark.not_mem_domain? (hd : IsMark d) {cs name : List Char} (h : domain? cs = some name) :
    d ∉ name := by
  obtain ⟨ascii, -, h⟩ := Option.bind_eq_some_iff.1 h
  split at h
  · exact absurd h nofun
  · next hallowed =>
    obtain rfl := Option.some.inj h
    intro hmem
    refine hallowed (List.any_eq_true.2 ⟨d, hmem, ?_⟩)
    rcases hd with rfl | rfl <;> decide

theorem IsMark.not_mem_namedHost (hd : IsMark d) {cs host : List Char}
    (h : namedHost cs = .ok host) : d ∉ host := by
  unfold namedHost at h
  split at h
  · exact absurd h nofun
  · exact absurd h nofun
  · next name _ hname =>
    -- Undoing percent-encoding can bring a mark in, but then the name is refused.
    obtain ⟨text, -, hdomain⟩ := Option.bind_eq_some_iff.1 hname
    split at h
    · split at h
      · next n _ =>
        obtain rfl := Except.ok.inj h
        exact hd.not_mem_ipv4Chars n
      · exact absurd h nofun
    · obtain rfl := Except.ok.inj h
      exact hd.not_mem_domain? hdomain

theorem IsMark.not_mem_specialHost (hd : IsMark d) {cs host : List Char}
    (h : specialHost cs = .ok host) : d ∉ host := by
  unfold specialHost at h
  split at h
  · exact absurd h nofun
  · exact hd.not_mem_bracketedHost h
  · exact hd.not_mem_namedHost h

theorem IsMark.not_mem_otherHost (hd : IsMark d) {cs host : List Char} (hcs : d ∉ cs)
    (h : otherHost cs = .ok host) : d ∉ host := by
  unfold otherHost at h
  split at h
  · exact hd.not_mem_bracketedHost h
  · split at h
    · exact absurd h nofun
    · obtain rfl := Except.ok.inj h
      exact hd.not_mem_percentEncode (.inr hcs)

theorem IsMark.not_mem_fileHost (hd : IsMark d) {cs host : List Char} (h : fileHost cs = .ok host) :
    d ∉ host := by
  unfold fileHost at h
  split at h
  · obtain rfl := Except.ok.inj h
    exact List.not_mem_nil
  · exact hd.not_mem_bracketedHost h
  · cases hnamed : namedHost cs with
    | error fault => rw [hnamed] at h; exact absurd h nofun
    | ok name =>
      rw [hnamed] at h
      obtain rfl := Except.ok.inj h
      dsimp only
      split
      · exact List.not_mem_nil
      · exact hd.not_mem_namedHost hnamed

/-! ## Authorities -/

theorem bind_eq_ok {ε α β : Type} {x : Except ε α} {f : α → Except ε β} {b : β} :
    x >>= f = .ok b ↔ ∃ a, x = .ok a ∧ f a = .ok b := by
  cases x with
  | error e => exact ⟨nofun, fun ⟨_, h, _⟩ => absurd h nofun⟩
  | ok a => exact ⟨fun h => ⟨a, rfl, h⟩, fun ⟨_, h, hf⟩ => Except.ok.inj h ▸ hf⟩

theorem splitAtMark_subset (mark : Char) (cs : List Char) :
    (splitAtMark mark cs).1 ⊆ cs ∧ (splitAtMark mark cs).2.getD [] ⊆ cs := by
  unfold splitAtMark
  split
  · exact ⟨List.Subset.refl cs, List.nil_subset cs⟩
  · next rest h =>
    have hrest : rest ⊆ cs := fun c hc =>
      (List.dropWhile_sublist (· ≠ mark)).subset (h ▸ List.mem_cons_of_mem _ hc)
    exact ⟨(List.takeWhile_sublist _).subset, hrest⟩

theorem splitUser_subset (cs : List Char) :
    (splitUser cs).1.getD [] ⊆ cs ∧ (splitUser cs).2 ⊆ cs := by
  unfold splitUser
  dsimp only
  split
  · exact ⟨List.nil_subset cs, List.Subset.refl cs⟩
  · next user h =>
    constructor
    · intro c hc
      have hc : c ∈ cs.reverse.dropWhile (· ≠ '@') :=
        h ▸ List.mem_cons_of_mem _ (List.mem_reverse.1 hc)
      exact List.mem_reverse.1 ((List.dropWhile_sublist _).subset hc)
    · intro c hc
      exact List.mem_reverse.1 ((List.takeWhile_sublist _).subset (List.mem_reverse.1 hc))

theorem splitPort_subset (inside : Bool) (cs : List Char) :
    (splitPort inside cs).1 ⊆ cs ∧ (splitPort inside cs).2.getD [] ⊆ cs := by
  induction cs generalizing inside with
  | nil => exact ⟨List.Subset.refl _, List.Subset.refl _⟩
  | cons c cs ih =>
    rw [splitPort]
    split
    · exact ⟨List.nil_subset _, List.subset_cons_self c cs⟩
    · obtain ⟨hhost, hport⟩ := ih (c = '[' || (inside && c ≠ ']'))
      exact ⟨List.cons_subset_cons c hhost, List.subset_cons_of_subset c hport⟩

theorem IsMark.not_mem_userChars (hd : IsMark d) {user : List Char} (huser : d ∉ user) :
    d ∉ userChars user := by
  have hcolon : d ≠ ':' := hd.ne (by decide)
  have hat : d ≠ '@' := hd.ne (by decide)
  obtain ⟨hname, hpassword⟩ := splitAtMark_subset ':' user
  have hname : d ∉ percentEncode escapedInUser (splitAtMark ':' user).1 :=
    hd.not_mem_percentEncode (.inr (mt (@hname d) huser))
  have hpassword : d ∉ percentEncode escapedInUser ((splitAtMark ':' user).2.getD []) :=
    hd.not_mem_percentEncode (.inr (mt (@hpassword d) huser))
  unfold userChars
  dsimp only
  split
  · exact List.not_mem_nil
  · split <;> simp [hname, hpassword, hcolon, hat]

theorem IsMark.not_mem_portChars (hd : IsMark d) {default? : Option Nat} {digits port : List Char}
    (h : portChars default? digits = .ok port) : d ∉ port := by
  have hcolon : d ≠ ':' := hd.ne (by decide)
  unfold portChars at h
  split at h
  · exact Except.ok.inj h ▸ List.not_mem_nil
  · split at h
    · next n _ =>
      split at h
      · exact absurd h nofun
      · split at h
        · exact Except.ok.inj h ▸ List.not_mem_nil
        · obtain rfl := Except.ok.inj h
          simp [hcolon, hd.not_mem_toDigits]
    · exact absurd h nofun

theorem IsMark.not_mem_webAuthority (hd : IsMark d) {defaultPort : Nat} {cs authority : List Char}
    (hcs : d ∉ cs) (h : webAuthority defaultPort cs = .ok authority) : d ∉ authority := by
  unfold webAuthority at h
  dsimp only at h
  split at h
  · exact absurd h nofun
  · obtain ⟨host, hhost, h⟩ := bind_eq_ok.1 h
    obtain ⟨port, hport, h⟩ := bind_eq_ok.1 h
    obtain rfl := Except.ok.inj h
    have huser := hd.not_mem_userChars (mt (@(splitUser_subset cs).1 d) hcs)
    simp [huser, hd.not_mem_specialHost hhost, hd.not_mem_portChars hport]

theorem IsMark.not_mem_otherAuthority (hd : IsMark d) {cs : List Char}
    {parts : List Char × List Char} (hcs : d ∉ cs) (h : otherAuthority cs = .ok parts) :
    d ∉ parts.1 ∧ d ∉ parts.2 := by
  have hrest := mt (@(splitUser_subset cs).2 d) hcs
  obtain ⟨hhost, hport⟩ := splitPort_subset false (splitUser cs).2
  have huser := hd.not_mem_userChars (mt (@(splitUser_subset cs).1 d) hcs)
  unfold otherAuthority at h
  dsimp only at h
  split at h
  · exact absurd h nofun
  · obtain ⟨host, hread, h⟩ := bind_eq_ok.1 h
    split at h
    · exact absurd h nofun
    · obtain ⟨port, hshown, h⟩ := bind_eq_ok.1 h
      obtain rfl := Except.ok.inj h
      have hhost := hd.not_mem_otherHost (mt (@hhost d) hrest) hread
      refine ⟨?_, fun hmem => hrest (hport ((List.drop_sublist _ _).subset hmem))⟩
      simp [huser, hhost, hd.not_mem_portChars hshown]

/-! ## Paths -/

theorem IsMark.not_mem_pathChars (hd : IsMark d) {segments : List (List Char)}
    (h : ∀ segment ∈ segments, d ∉ segment) : d ∉ pathChars segments := by
  have hslash : d ≠ '/' := hd.ne (by decide)
  rw [pathChars, List.mem_flatMap]
  rintro ⟨segment, hsegment, hmem⟩
  exact (List.mem_cons.1 hmem).elim hslash (h segment hsegment)

theorem forall_not_mem_addSegment {segments : List (List Char)} {segment : List Char} {last : Bool}
    (h : ∀ s ∈ segments, d ∉ s) (hsegment : d ∉ segment) :
    ∀ s ∈ addSegment segments segment last, d ∉ s := by
  have hending : ∀ s ∈ (if last then [[]] else [] : List (List Char)), d ∉ s := by
    cases last <;> simp
  have hshorter : ∀ s ∈ withoutLast segments, d ∉ s := by
    unfold withoutLast
    split
    · exact h
    · exact fun s hs => h s ((List.dropLast_sublist _).subset hs)
  unfold addSegment
  dsimp only
  split
  · exact List.forall_mem_append.2 ⟨hshorter, hending⟩
  · split
    · exact List.forall_mem_append.2 ⟨h, hending⟩
    · exact List.forall_mem_append.2 ⟨h, List.forall_mem_singleton.2 hsegment⟩

theorem forall_not_mem_addSegments {segments more : List (List Char)}
    (h : ∀ s ∈ segments, d ∉ s) (hmore : ∀ s ∈ more, d ∉ s) :
    ∀ s ∈ addSegments segments more, d ∉ s := by
  induction more generalizing segments with
  | nil => exact h
  | cons segment more ih =>
    obtain ⟨hsegment, hmore⟩ := List.forall_mem_cons.1 hmore
    exact ih (forall_not_mem_addSegment h hsegment) hmore

theorem IsMark.forall_not_mem_encoded (hd : IsMark d) (segments : List (List Char)) :
    ∀ s ∈ segments.map (percentEncode escapedInPath), d ∉ s := by
  intro s hs
  obtain ⟨segment, -, rfl⟩ := List.mem_map.1 hs
  exact hd.not_mem_percentEncode (.inl hd.isEscaped)

theorem IsMark.not_mem_readSegments (hd : IsMark d) (kind : SchemeKind) (cs : List Char) :
    d ∉ pathChars (readSegments kind cs) :=
  hd.not_mem_pathChars (forall_not_mem_addSegments nofun (hd.forall_not_mem_encoded _))

theorem IsMark.forall_not_mem_splitDrive (hd : IsMark d) {segments : List (List Char)}
    (h : ∀ s ∈ segments, d ∉ s) : ∀ s ∈ splitDrive segments, d ∉ s := by
  have hcolon : d ≠ ':' := hd.ne (by decide)
  unfold splitDrive
  split
  · split
    · obtain ⟨hfirst, hothers⟩ := List.forall_mem_cons.1 h
      simp only [List.mem_cons, not_or] at hfirst
      refine List.forall_mem_cons.2 ⟨?_, List.forall_mem_cons.2 ⟨?_, hothers⟩⟩
      · simp [hfirst.1, hcolon]
      · simp [hfirst.2.2.1, hfirst.2.2.2]
    · exact h
  · split
    · obtain ⟨hfirst, hothers⟩ := List.forall_mem_cons.1 h
      simp only [List.mem_cons, not_or] at hfirst
      refine List.forall_mem_cons.2 ⟨?_, hothers⟩
      simp [hfirst.1, hcolon]
    · exact h
  · exact h

theorem IsMark.not_mem_readFileSegments (hd : IsMark d) (cs : List Char) :
    d ∉ pathChars (readFileSegments cs) := by
  have hgiven := hd.forall_not_mem_splitDrive (hd.forall_not_mem_encoded (splitSegments .file cs))
  have hadded := forall_not_mem_addSegments (List.forall_mem_nil (d ∉ ·)) hgiven
  refine hd.not_mem_pathChars ?_
  unfold readFileSegments
  dsimp only
  split
  · exact List.forall_mem_singleton.2 List.not_mem_nil
  · exact fun s hs => hadded s ((List.dropWhile_sublist _).subset hs)

/-! ## What is behind the scheme -/

theorem IsMark.not_mem_webPlace (hd : IsMark d) {defaultPort : Nat} {cs : List Char} {place : Place}
    (hcs : d ∉ cs) (h : webPlace defaultPort cs = .ok place) :
    d ∉ place.1.getD [] ∧ d ∉ place.2 := by
  unfold webPlace at h
  obtain ⟨authority, hauthority, h⟩ := bind_eq_ok.1 h
  obtain rfl := Except.ok.inj h
  have hgiven : d ∉ (cs.dropWhile (SchemeKind.web defaultPort).isSlash).takeWhile
      (!(SchemeKind.web defaultPort).isSlash ·) :=
    fun hmem => hcs ((List.dropWhile_sublist _).subset ((List.takeWhile_sublist _).subset hmem))
  exact ⟨hd.not_mem_webAuthority hgiven hauthority, hd.not_mem_readSegments _ _⟩

theorem IsMark.not_mem_filePlace (hd : IsMark d) {cs : List Char} {place : Place}
    (h : filePlace cs = .ok place) : d ∉ place.1.getD [] ∧ d ∉ place.2 := by
  unfold filePlace at h
  dsimp only at h
  split at h
  · split at h
    · split at h
      · obtain rfl := Except.ok.inj h
        exact ⟨List.not_mem_nil, hd.not_mem_readFileSegments _⟩
      · obtain ⟨host, hhost, h⟩ := bind_eq_ok.1 h
        obtain rfl := Except.ok.inj h
        refine ⟨?_, hd.not_mem_readFileSegments _⟩
        rw [Option.getD_some]
        split
        · exact List.not_mem_nil
        · exact hd.not_mem_fileHost hhost
    · obtain rfl := Except.ok.inj h
      exact ⟨List.not_mem_nil, hd.not_mem_readFileSegments _⟩
  · obtain rfl := Except.ok.inj h
    exact ⟨List.not_mem_nil, hd.not_mem_readFileSegments _⟩

theorem IsMark.not_mem_otherPlace (hd : IsMark d) {cs : List Char} {place : Place} (hcs : d ∉ cs)
    (h : otherPlace cs = .ok place) : d ∉ place.1.getD [] ∧ d ∉ place.2 := by
  unfold otherPlace at h
  split at h
  · next rest =>
    have hrest : d ∉ rest := fun hmem => hcs (List.mem_cons_of_mem _ (List.mem_cons_of_mem _ hmem))
    obtain ⟨⟨authority, extra⟩, hauthority, h⟩ := bind_eq_ok.1 h
    obtain rfl := Except.ok.inj h
    have hgiven := fun hmem => hrest ((List.takeWhile_sublist (· ≠ '/')).subset hmem)
    refine ⟨(hd.not_mem_otherAuthority hgiven hauthority).1, ?_⟩
    dsimp only
    split
    · exact List.not_mem_nil
    · exact hd.not_mem_readSegments _ _
  · obtain rfl := Except.ok.inj h
    exact ⟨List.not_mem_nil, hd.not_mem_readSegments _ _⟩
  · obtain rfl := Except.ok.inj h
    exact ⟨List.not_mem_nil, hd.not_mem_percentEncode (.inr hcs)⟩

/-- **No mark gets into an authority or a path.** -/
theorem IsMark.not_mem_place (hd : IsMark d) {kind : SchemeKind} {cs : List Char} {result : Place}
    (hcs : d ∉ cs) (h : place kind cs = .ok result) : d ∉ result.1.getD [] ∧ d ∉ result.2 := by
  cases kind with
  | web defaultPort => exact hd.not_mem_webPlace hcs h
  | file => exact hd.not_mem_filePlace h
  | other => exact hd.not_mem_otherPlace hcs h

theorem IsMark.toLower_ne (hd : IsMark d) {c : Char} (hc : isSchemeChar c = true) :
    c.toLower ≠ d := by
  -- A capital letter becomes a small one, and everything else stays what it is.
  by_cases hupper : c.val ≥ 'A'.val ∧ c.val ≤ 'Z'.val
  · have hletter : ∀ n ≤ 90, 65 ≤ n →
        (Char.ofNat n).toLower ≠ '?' ∧ (Char.ofNat n).toLower ≠ '#' := by decide
    obtain ⟨hquery, hhash⟩ := hletter c.toNat hupper.2 hupper.1
    rw [Char.ofNat_toNat] at hquery hhash
    rcases hd with rfl | rfl
    · exact hquery
    · exact hhash
  · have hstays : c.toLower = c := dif_neg hupper
    rw [hstays]
    rintro rfl
    rcases hd with rfl | rfl <;> exact absurd hc (by decide)

theorem IsMark.not_mem_scheme (hd : IsMark d) {cs scheme rest : List Char}
    (h : splitScheme? cs = some (scheme, rest)) : d ∉ scheme := by
  unfold splitScheme? at h
  split at h
  · split at h
    · obtain ⟨rfl, -⟩ := Prod.mk.inj (Option.some.inj h)
      intro hmem
      obtain ⟨c, hc, hlower⟩ := List.mem_map.1 hmem
      exact hd.toLower_ne (List.mem_takeWhile_imp hc) hlower
    · exact absurd h nofun
  · exact absurd h nofun

end Marks

end Vendoring.Url

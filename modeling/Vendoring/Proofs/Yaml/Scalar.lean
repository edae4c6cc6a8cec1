import Vendoring.Yaml.Tokens

/-!
# Scalars as they are written

A text of printable characters is written between double quotes, with a backslash in front of every
quote and backslash. **Between the quotes it is read as what it is** (`quoted_escapedChars`), blanks
included, since a gap without a line break stays as it is.

A word is written without quotes. It ends in front of a colon, or at the end of its line if the next
line that has text is not indented more (`plainChars_append`, `plainChars_line`).
-/

set_option autoImplicit false

namespace Vendoring.Yaml

/-! ## Characters and their places -/

/-- A character that can be written between double quotes, at times behind a backslash. -/
def isPrintable (c : Char) : Bool := ' ' ≤ c && c ≤ '~'

theorem isAllowed_of_isPrintable {c : Char} (h : isPrintable c = true) : isAllowed c = true := by
  rw [isPrintable] at h
  simp [isAllowed, h]

theorem forbiddenOffset?_eq_none {cs : List Char} (h : ∀ c ∈ cs, isAllowed c = true) :
    forbiddenOffset? cs = none := by
  induction cs with
  | nil => rfl
  | cons c cs ih =>
    obtain ⟨hc, hcs⟩ := List.forall_mem_cons.1 h
    rw [forbiddenOffset?, if_pos hc, ih hcs]
    rfl

theorem startsBreak_of_isPrintable {c : Char} (h : isPrintable c = true) :
    Source.startsBreak c = false := by
  rw [Source.startsBreak, isBreak]
  have hne : ∀ b : Char, isPrintable b = false → c ≠ b := by
    rintro b hb rfl
    rw [h] at hb
    cases hb
  simp [hne '\n' rfl, hne '\u2028' rfl, hne '\u2029' rfl, hne '\r' rfl, hne '\x85' rfl]

theorem isBlank_of_isPrintable {c : Char} (h : isPrintable c = true) (hspace : c ≠ ' ') :
    (isBlank c || isBreak c) = false := by
  have hbreak := startsBreak_of_isPrintable h
  rw [Source.startsBreak, Bool.or_eq_false_iff, Bool.or_eq_false_iff] at hbreak
  have htab : c ≠ '\t' := by
    rintro rfl
    cases h
  simp [isBlank, hspace, htab, hbreak.1.1]

theorem Mark.next_column_ne_zero (m : Mark) : m.next.column ≠ 0 := Nat.succ_ne_zero _

theorem Mark.nextBy_add (m : Mark) (a b : Nat) : (m.nextBy a).nextBy b = m.nextBy (a + b) := by
  simp [nextBy, Nat.add_assoc]

namespace Source

theorem ofChars_newline (m : Mark) (rest : List Char) :
    ofChars m ('\n' :: rest) = char '\n' m (ofChars (m.nextLine 1) rest) := by
  rw [ofChars]
  · rfl
  · exact fun _ hc => absurd hc (by decide)

theorem length_ofChars_append (run rest : List Char) (hrun : ∀ c ∈ run, startsBreak c = false) :
    ∀ m, (ofChars m (run ++ rest)).length =
      run.length + (ofChars (m.nextBy run.length) rest).length := by
  induction run with
  | nil => intro m; simp
  | cons c run ih =>
    intro m
    have hc := hrun c List.mem_cons_self
    rw [List.cons_append, ofChars_cons m _ hc, length, ih fun d hd => hrun d (.tail _ hd),
      List.length_cons, Mark.nextBy_succ]
    omega

end Source

/-! ## Between tokens -/

section

variable (inFlow keyAllowed : Bool)

theorem passSpace_spaces (count : Nat) (rest : List Char) : ∀ m : Mark,
    Scan.passSpace inFlow false keyAllowed (Source.ofChars m (List.replicate count ' ' ++ rest)) =
      Scan.passSpace inFlow false keyAllowed (Source.ofChars (m.nextBy count) rest) := by
  induction count with
  | zero => exact fun _ => rfl
  | succ count ih =>
    intro m
    rw [List.replicate_succ, List.cons_append, Source.ofChars_cons m _ (by decide),
      Mark.nextBy_succ, ← ih m.next]
    rfl

/-- The character belongs to a token. -/
structure IsSolid (c : Char) : Prop where
  blank : (isBlank c || isBreak c) = false
  comment : c ≠ '#'
  order : c ≠ '\ufeff'

theorem passSpace_solid {c : Char} (hc : IsSolid c) (m : Mark) (rest : Source) :
    Scan.passSpace inFlow false keyAllowed (.char c m rest) = (keyAllowed, .char c m rest) := by
  have hblank := hc.blank
  rw [isBlank, Bool.or_eq_false_iff, Bool.or_eq_false_iff, decide_eq_false_iff_not,
    decide_eq_false_iff_not] at hblank
  obtain ⟨⟨hspace, htab⟩, hbreak⟩ := hblank
  rw [Scan.passSpace]
  simp [hbreak, hspace, htab, hc.comment, hc.order]

end

/-! ## Between double quotes -/

/-- A character as it is written between double quotes. -/
def escapeChar (c : Char) : List Char := if c = '"' || c = '\\' then ['\\', c] else [c]

/-- A text as it is written between double quotes. -/
def escapedChars (s : List Char) : List Char := s.flatMap escapeChar

theorem isPrintable_of_mem_escapedChars {s : List Char} (hs : ∀ c ∈ s, isPrintable c = true) :
    ∀ c ∈ escapedChars s, isPrintable c = true := by
  intro c hc
  obtain ⟨d, hd, hc⟩ := List.mem_flatMap.1 hc
  rw [escapeChar] at hc
  split at hc
  · rcases List.mem_cons.1 hc with rfl | hc
    · rfl
    · rw [List.mem_singleton.1 hc]
      exact hs d hd
  · rw [List.mem_singleton.1 hc]
    exact hs d hd

/-- A gap inside a line. -/
def Gap.IsInside (g : Gap) : Prop := g.breaks = [] ∧ g.escaped = false

theorem Gap.IsInside.chars {g : Gap} (h : g.IsInside) : g.chars = g.blanks := by
  simp [Gap.chars, h.1, h.2]

theorem Gap.IsInside.push_space {g : Gap} (h : g.IsInside) :
    (g.push ' ').IsInside ∧ (g.push ' ').blanks = g.blanks ++ [' '] := by
  have hpush : g.push ' ' = { g with blanks := g.blanks ++ [' '] } := by
    simp [Gap.push, isBreak, Gap.crossesLine, h.1, h.2]
  rw [hpush]
  exact ⟨h, rfl⟩

theorem isDocumentMarker_eq_false {c d : Char} {m : Mark} (h : m.column ≠ 0 ∨ c ≠ d)
    (rest : Source) : (Source.char c m rest).isDocumentMarker d = false := by
  unfold Source.isDocumentMarker
  split
  · next heq =>
    cases heq
    rcases h with h | h <;> simp [h]
  · rfl

/-- The character cannot be the first one of a line that parts documents. -/
def BeginsNoMarker (c : Char) (m : Mark) : Prop := m.column ≠ 0 ∨ c ≠ '-' ∧ c ≠ '.'

theorem BeginsNoMarker.isDocumentMarker {c : Char} {m : Mark} (h : BeginsNoMarker c m)
    (rest : Source) : (Source.char c m rest).isDocumentMarker '-' = false ∧
      (Source.char c m rest).isDocumentMarker '.' = false :=
  ⟨isDocumentMarker_eq_false (h.imp_right And.left) rest,
    isDocumentMarker_eq_false (h.imp_right And.right) rest⟩

theorem BeginsNoMarker.partsDocuments {c : Char} {m : Mark} (h : BeginsNoMarker c m)
    (rest : Source) : (Source.char c m rest).partsDocuments = false :=
  Bool.or_eq_false_iff.2 (h.isDocumentMarker rest)

theorem partsDocuments_of_column (c : Char) {m : Mark} (h : m.column ≠ 0) (rest : Source) :
    (Source.char c m rest).partsDocuments = false :=
  BeginsNoMarker.partsDocuments (.inl h) rest

section

variable (start : Mark)

theorem quotedChars_text (quote : Char) (s : Source) :
    quotedChars start quote .text s = quotedChars start quote (.gap .empty) s := by
  rw [quotedChars.eq_def start quote .text s, quotedChars.eq_def start quote (.gap .empty) s]
  cases s <;> rfl

variable {start} {g : Gap} {c : Char} {m : Mark} {rest behind : Source} {taken : List Char}

theorem quotedChars_space :
    quotedChars start '"' (.gap g) (.char ' ' m rest) =
      quotedChars start '"' (.gap (g.push ' ')) rest := by
  rw [quotedChars.eq_def]
  rfl

/-- **One character is read as it was written**, behind a backslash or not. -/
theorem quotedChars_escapeChar (hc : isPrintable c = true) (hspace : c ≠ ' ') (hm : m.column ≠ 0)
    {cs : List Char} (h : quotedChars start '"' (.gap .empty)
      (Source.ofChars (m.nextBy (escapeChar c).length) cs) = .ok (taken, behind)) :
    quotedChars start '"' (.gap g) (Source.ofChars m (escapeChar c ++ cs)) =
      .ok (g.chars ++ c :: taken, behind) := by
  rw [← quotedChars_text] at h
  by_cases hslashed : c = '"' ∨ c = '\\'
  · have hescape : escapeChar c = ['\\', c] := by
      rcases hslashed with rfl | rfl <;> rfl
    have hparts := partsDocuments_of_column '\\' hm
      (.char c m.next (Source.ofChars m.next.next cs))
    rw [hescape] at h ⊢
    have hrest : quotedChars start '"' .text (Source.ofChars m.next.next cs) = .ok (taken, behind) := h
    rw [List.cons_append, List.singleton_append, Source.ofChars_cons m _ (by decide),
      Source.ofChars_cons m.next _ (startsBreak_of_isPrintable hc), quotedChars.eq_def]
    rcases hslashed with rfl | rfl <;>
    · simp [isBlank, isBreak, hparts, Escape.ofChar?, hrest, Functor.map, Except.map]
  · obtain ⟨hquote, hslash⟩ := not_or.1 hslashed
    have hsame : escapeChar c = [c] := by simp [escapeChar, hquote, hslash]
    have hparts := partsDocuments_of_column c hm (Source.ofChars m.next cs)
    rw [hsame] at h ⊢
    have hrest : quotedChars start '"' .text (Source.ofChars m.next cs) = .ok (taken, behind) := h
    rw [List.singleton_append, Source.ofChars_cons m _ (startsBreak_of_isPrintable hc),
      quotedChars.eq_def]
    simp only [isBlank_of_isPrintable hc hspace, hparts, hquote, hslash, decide_false,
      Bool.and_false, Bool.false_eq_true, if_false, hrest]
    rfl

theorem quotedChars_quote (hm : m.column ≠ 0) :
    quotedChars start '"' (.gap g) (.char '"' m rest) = .ok (g.chars, rest) := by
  have hparts := partsDocuments_of_column '"' hm rest
  rw [quotedChars.eq_def]
  simp [isBlank, isBreak, hparts]
  rfl

/-- **Printable characters are read as they were written.** -/
theorem quotedChars_escapedChars (s rest : List Char) (hs : ∀ c ∈ s, isPrintable c = true) :
    ∀ (g : Gap) (m : Mark), g.IsInside → m.column ≠ 0 →
      quotedChars start '"' (.gap g) (Source.ofChars m (escapedChars s ++ '"' :: rest)) =
        .ok (g.blanks ++ s, Source.ofChars (m.nextBy ((escapedChars s).length + 1)) rest) := by
  induction s with
  | nil =>
    intro g m hg hm
    rw [escapedChars, List.flatMap_nil, List.nil_append, Source.ofChars_cons m rest (by decide),
      quotedChars_quote hm, hg.chars, List.append_nil]
    rfl
  | cons c s ih =>
    intro g m hg hm
    obtain ⟨hc, hs'⟩ := List.forall_mem_cons.1 hs
    have hempty : Gap.empty.IsInside := ⟨rfl, rfl⟩
    have hsplit : escapedChars (c :: s) ++ '"' :: rest =
        escapeChar c ++ (escapedChars s ++ '"' :: rest) := by simp [escapedChars]
    have hlength : (escapedChars (c :: s)).length =
        (escapeChar c).length + (escapedChars s).length := by simp [escapedChars]
    have hmark : (m.nextBy (escapeChar c).length).nextBy ((escapedChars s).length + 1) =
        m.nextBy ((escapeChar c).length + (escapedChars s).length + 1) := Mark.nextBy_add ..
    have hcolumn : (m.nextBy (escapeChar c).length).column ≠ 0 := by
      simp [Mark.nextBy, hm]
    rw [hsplit, hlength, ← hmark]
    by_cases hspace : c = ' '
    · subst hspace
      obtain ⟨hpush, hblanks⟩ := hg.push_space
      have hrest := ih hs' _ _ hpush hcolumn
      rw [hblanks, List.append_assoc, List.singleton_append] at hrest
      exact quotedChars_space.trans hrest
    · rw [← hg.chars]
      exact quotedChars_escapeChar hc hspace hm (ih hs' .empty _ hempty hcolumn)

variable (start) in
/-- **A text between double quotes is read as what it is**, from behind the first quote. -/
theorem quoted_escapedChars {s : List Char} (hs : ∀ c ∈ s, isPrintable c = true) (rest : List Char)
    {m : Mark} (hm : m.column ≠ 0) :
    (Source.ofChars m (escapedChars s ++ '"' :: rest)).quoted '"' start =
      .ok (String.ofList s, Source.ofChars (m.nextBy ((escapedChars s).length + 1)) rest) := by
  rw [Source.quoted, quotedChars_text, quotedChars_escapedChars s rest hs .empty m ⟨rfl, rfl⟩ hm]
  rfl

end

/-! ## Words -/

theorem ne_of_isWord {c b : Char} (hc : isWord c = true) (hb : isWord b = false) : c ≠ b := by
  rintro rfl
  rw [hc] at hb
  cases hb

theorem isPrintable_of_isWord {c : Char} (h : isWord c = true) : isPrintable c = true := by
  have hbetween : ∀ first last : Char, ' ' ≤ first → last ≤ '~' →
      first ≤ c ∧ c ≤ last → isPrintable c = true := by
    intro first last hfirst hlast h
    rw [isPrintable, Bool.and_eq_true, decide_eq_true_eq, decide_eq_true_eq]
    exact ⟨UInt32.le_trans hfirst h.1, UInt32.le_trans h.2 hlast⟩
  rw [isWord, Bool.or_eq_true, Bool.or_eq_true, decide_eq_true_eq, decide_eq_true_eq] at h
  rcases h with (h | rfl) | rfl
  · rcases Bool.or_eq_true_iff.1 h with hletter | hdigit
    · rcases Bool.or_eq_true_iff.1 hletter with hupper | hlower
      · exact hbetween 'A' 'Z' (by decide) (by decide) (of_decide_eq_true hupper)
      · exact hbetween 'a' 'z' (by decide) (by decide)
          ((Bool.and_eq_true_iff.1 hlower).imp of_decide_eq_true of_decide_eq_true)
    · exact hbetween '0' '9' (by decide) (by decide)
        ((Bool.and_eq_true_iff.1 hdigit).imp of_decide_eq_true of_decide_eq_true)
  · rfl
  · rfl

theorem startsBreak_of_isWord {c : Char} (h : isWord c = true) : Source.startsBreak c = false :=
  startsBreak_of_isPrintable (isPrintable_of_isWord h)

theorem isBlank_of_isWord {c : Char} (h : isWord c = true) : (isBlank c || isBreak c) = false :=
  isBlank_of_isPrintable (isPrintable_of_isWord h) (ne_of_isWord h (by decide))

theorem isSolid_of_isWord {c : Char} (h : isWord c = true) : IsSolid c :=
  ⟨isBlank_of_isWord h, ne_of_isWord h (by decide), ne_of_isWord h (by decide)⟩

section

variable {start : Mark} {least : Nat}

/-- Blank space is put into the gap. -/
theorem plainChars_blank {c : Char} (hc : (isBlank c || isBreak c) = true) (htab : c ≠ '\t')
    (g : Gap) (m : Mark) (rest : Source) :
    plainChars start false least g (.char c m rest) =
      plainChars start false least (g.push c) rest :=
  (if_pos hc).trans (if_neg (by simp [htab]))

/-- Where a scalar ends, nothing more is read. -/
theorem plainChars_ends {g : Gap} {c : Char} (hc : (isBlank c || isBreak c) = false) {m : Mark}
    {rest : Source} (hends : endsPlain false least g (.char c m rest) = true) :
    plainChars start false least g (.char c m rest) =
      .ok ⟨[], g.crossesLine, .char c m rest⟩ :=
  (if_neg (Bool.eq_false_iff.1 hc)).trans (if_pos hends)

theorem plainChars_cons {c : Char} (hc : isWord c = true) {m : Mark} (hm : BeginsNoMarker c m)
    {rest : Source} {run : PlainRun} (h : plainChars start false least .empty rest = .ok run) :
    plainChars start false least .empty (.char c m rest) =
      .ok { run with chars := c :: run.chars } := by
  have hends : endsPlain false least .empty (.char c m rest) = false := by
    simp [endsPlain, ne_of_isWord hc (b := '#') (by decide), ne_of_isWord hc (b := ':') (by decide),
      hm.partsDocuments, Gap.empty, Gap.crossesLine]
  rw [plainChars, isBlank_of_isWord hc, hends]
  simp only [Bool.false_eq_true, if_false, Bool.false_and, h]
  rfl

/-- **A word is read up to where it ends.** -/
theorem plainChars_append {w : List Char} (hw : ∀ c ∈ w, isWord c = true) {rest : List Char}
    {crossed : Bool} {behind : Source} : ∀ {m : Mark}, (∀ c ∈ w.head?, BeginsNoMarker c m) →
      plainChars start false least .empty (Source.ofChars (m.nextBy w.length) rest) =
        .ok ⟨[], crossed, behind⟩ →
      plainChars start false least .empty (Source.ofChars m (w ++ rest)) =
        .ok ⟨w, crossed, behind⟩ := by
  induction w with
  | nil => exact fun _ h => h
  | cons c w ih =>
    intro m hm h
    obtain ⟨hc, hw'⟩ := List.forall_mem_cons.1 hw
    have hnext : ∀ d ∈ w.head?, BeginsNoMarker d m.next :=
      fun _ _ => .inl (Mark.next_column_ne_zero m)
    rw [List.length_cons, Mark.nextBy_succ] at h
    rw [List.cons_append, Source.ofChars_cons m _ (startsBreak_of_isWord hc)]
    exact plainChars_cons hc (hm c rfl) (ih hw' hnext h)

theorem plainChars_colon {m : Mark} {rest : Source} (h : rest.isSpaced = true) :
    plainChars start false least .empty (.char ':' m rest) =
      .ok ⟨[], false, .char ':' m rest⟩ :=
  plainChars_ends (by decide) (by simp [endsPlain, h])

/-- Behind the end of a line, the gap is passed over with the indentation of the next one. -/
theorem plainChars_spaces {g : Gap} (hg : g.crossesLine = true) (count : Nat) (rest : List Char) :
    ∀ m : Mark, plainChars start false least g
        (Source.ofChars m (List.replicate count ' ' ++ rest)) =
      plainChars start false least g (Source.ofChars (m.nextBy count) rest) := by
  induction count with
  | zero => exact fun _ => rfl
  | succ count ih =>
    intro m
    have hpush : g.push ' ' = g := by simp [Gap.push, isBreak, hg]
    rw [List.replicate_succ, List.cons_append, Source.ofChars_cons m _ (by decide),
      plainChars_blank (by decide) (by decide), hpush, Mark.nextBy_succ, ih m.next]

/-- The characters are no text, or they start with a line that is indented by less than `least` and
begins with a word that is no dash. -/
def StartsLine (least : Nat) (cs : List Char) : Prop :=
  cs = [] ∨ ∃ count c rest, cs = List.replicate count ' ' ++ c :: rest ∧ count < least ∧
    isWord c = true ∧ c ≠ '-'

theorem StartsLine.mono {more : Nat} {cs : List Char} (h : StartsLine least cs)
    (hle : least ≤ more) : StartsLine more cs := by
  rcases h with hnil | ⟨count, c, rest, hcs, hcount, hc, hdash⟩
  · exact .inl hnil
  · exact .inr ⟨count, c, rest, hcs, Nat.lt_of_lt_of_le hcount hle, hc, hdash⟩

variable (start) in
/-- Behind a word at the end of its line, reading goes on where the next line has text. -/
theorem plainChars_line {cs : List Char} (h : StartsLine least cs) (m : Mark) :
    ∃ behind, plainChars start false least .empty (Source.ofChars m ('\n' :: cs)) =
        .ok ⟨[], true, behind⟩ ∧
      Scan.passSpace false false true (Source.ofChars (m.nextLine 1) cs) = (true, behind) ∧
      Scan.passSpace false false true behind = (true, behind) := by
  have hbreak : plainChars start false least .empty (Source.ofChars m ('\n' :: cs)) =
      plainChars start false least ⟨[], ['\n'], false⟩ (Source.ofChars (m.nextLine 1) cs) := by
    rw [Source.ofChars_newline, plainChars_blank (by decide) (by decide)]
    rfl
  rw [hbreak]
  rcases h with rfl | ⟨count, c, rest, rfl, hcount, hc, hdash⟩
  · exact ⟨.ended (m.nextLine 1), rfl, rfl, rfl⟩
  · have hsolid := passSpace_solid false true (isSolid_of_isWord hc)
      ((m.nextLine 1).nextBy count) (Source.ofChars ((m.nextLine 1).nextBy count).next rest)
    rw [← Source.ofChars_cons _ _ (startsBreak_of_isWord hc)] at hsolid
    refine ⟨Source.ofChars ((m.nextLine 1).nextBy count) (c :: rest), ?_, ?_, hsolid⟩
    · have hends : endsPlain false least ⟨[], ['\n'], false⟩ (.char c
          ((m.nextLine 1).nextBy count) (Source.ofChars ((m.nextLine 1).nextBy count).next rest)) =
          true := by
        have hcolumn : ((m.nextLine 1).nextBy count).column < least := by
          simpa [Mark.nextLine, Mark.nextBy] using hcount
        simp [endsPlain, Gap.crossesLine, hcolumn]
      rw [plainChars_spaces rfl, Source.ofChars_cons _ _ (startsBreak_of_isWord hc)]
      exact plainChars_ends (isBlank_of_isWord hc) hends
    · rw [passSpace_spaces, hsolid]

end

/-! ## Keys -/

/-- A word that can be a key without quotes. -/
structure IsKey (key : List Char) : Prop where
  words : ∀ c ∈ key, isWord c = true
  head : ∃ c rest, key = c :: rest ∧ c ≠ '-'

theorem isKey_iff {key : List Char} :
    IsKey key ↔ key.all isWord = true ∧ key ≠ [] ∧ key.head? ≠ some '-' := by
  rw [List.all_eq_true]
  constructor
  · rintro ⟨hwords, c, rest, rfl, hdash⟩
    exact ⟨hwords, List.cons_ne_nil _ _, by simpa using hdash⟩
  · rintro ⟨hwords, hne, hdash⟩
    obtain ⟨c, rest, rfl⟩ := List.exists_cons_of_ne_nil hne
    exact ⟨hwords, c, rest, rfl, by simpa using hdash⟩

instance (key : List Char) : Decidable (IsKey key) := decidable_of_iff' _ isKey_iff

/-- A key starts a line. -/
theorem IsKey.startsLine {key : List Char} (hkey : IsKey key) {count least : Nat}
    (hcount : count < least) (cs : List Char) :
    StartsLine least (List.replicate count ' ' ++ (key ++ cs)) := by
  obtain ⟨c, rest, rfl, hdash⟩ := hkey.head
  exact .inr ⟨count, c, rest ++ cs, rfl, hcount, hkey.words c List.mem_cons_self, hdash⟩

theorem IsKey.source {key : List Char} (hkey : IsKey key) (start : Mark) {tail : List Char}
    (htail : ∀ n, (Source.ofChars n tail).isSpaced = true) :
    ∃ c rest, isWord c = true ∧ c ≠ '-' ∧
      Source.ofChars start (key ++ ':' :: tail) = .char c start rest ∧
      ∀ least, plainChars start false least .empty (.char c start rest) =
        .ok ⟨key, false, .char ':' (start.nextBy key.length)
          (Source.ofChars (start.nextBy (key.length + 1)) tail)⟩ := by
  obtain ⟨c, key', rfl, hdash⟩ := hkey.head
  have hc := hkey.words c List.mem_cons_self
  have hword : Source.ofChars start (c :: key' ++ ':' :: tail) =
      .char c start (Source.ofChars start.next (key' ++ ':' :: tail)) :=
    Source.ofChars_cons start _ (startsBreak_of_isWord hc)
  refine ⟨c, _, hc, hdash, hword, fun least => ?_⟩
  rw [← hword]
  apply plainChars_append hkey.words
  · rintro _ ⟨⟩
    exact .inr ⟨hdash, ne_of_isWord hc (by decide)⟩
  · rw [Source.ofChars_cons _ tail (by decide)]
    exact plainChars_colon (htail _)

end Vendoring.Yaml

import Vendoring.Proofs.Decimal
import Vendoring.Proofs.Yaml.Scan

/-!
# Values behind a key

A value stands in the line of its key: text between double quotes, texts in brackets, a number or
nothing. **Reading takes its tokens and comes to the start of the next line** (`reads_value`).
-/

set_option autoImplicit false

namespace Vendoring.Yaml

/-! ## How values are written -/

/-- A value that stands in the line of its key. -/
inductive Written where
  | text (s : String)
  | texts (ss : List String)
  | number (n : Int)
  | nothing
  deriving DecidableEq, Repr

/-- A text between double quotes. -/
def quotedText (s : String) : List Char := '"' :: (escapedChars s.toList ++ ['"'])

/-- Texts with commas between them. -/
def commaTexts : List String → List Char
  | [] => []
  | [s] => quotedText s
  | s :: more => quotedText s ++ ',' :: ' ' :: commaTexts more

/-- The kinds of the tokens of texts with commas between them. -/
def commaKinds : List String → List TokenKind
  | [] => []
  | [s] => [.scalar .doubleQuoted s]
  | s :: more => .scalar .doubleQuoted s :: .flowEntry :: commaKinds more

namespace Written

/-- The characters of a value. -/
def chars : Written → List Char
  | text s => quotedText s
  | texts ss => '[' :: (commaTexts ss ++ [']'])
  | number n => (toString n).toList
  | nothing => "null".toList

/-- Can all texts be written between double quotes? -/
def IsPrintable : Written → Prop
  | text s => ∀ c ∈ s.toList, isPrintable c = true
  | texts ss => ∀ s ∈ ss, ∀ c ∈ s.toList, isPrintable c = true
  | number _ | nothing => True

instance : (v : Written) → Decidable v.IsPrintable
  | text s => decidable_of_iff (s.toList.all isPrintable = true) List.all_eq_true
  | texts ss => decidable_of_iff (ss.all (·.toList.all isPrintable) = true) (by
      simp [IsPrintable, List.all_eq_true])
  | number _ | nothing => .isTrue trivial

/-- The kinds of the tokens of a value. -/
def kinds : Written → List TokenKind
  | text s => [.scalar .doubleQuoted s]
  | texts ss => .flowSequenceStart :: (commaKinds ss ++ [.flowSequenceEnd])
  | number n => [.scalar .plain (toString n)]
  | nothing => [.scalar .plain "null"]

end Written

/-! ## Their characters -/

theorem isPrintable_of_mem_quotedText {s : String} (hs : ∀ c ∈ s.toList, isPrintable c = true) :
    ∀ c ∈ quotedText s, isPrintable c = true := by
  intro c hc
  rcases List.mem_cons.1 hc with rfl | hc
  · rfl
  · rcases List.mem_append.1 hc with hc | hc
    · exact isPrintable_of_mem_escapedChars hs c hc
    · rw [List.mem_singleton.1 hc]
      rfl

theorem isPrintable_of_mem_commaTexts {ss : List String}
    (hss : ∀ s ∈ ss, ∀ c ∈ s.toList, isPrintable c = true) :
    ∀ c ∈ commaTexts ss, isPrintable c = true := by
  induction ss with
  | nil => exact fun c hc => absurd hc (List.not_mem_nil)
  | cons s more ih =>
    obtain ⟨hs, hmore⟩ := List.forall_mem_cons.1 hss
    intro c hc
    cases more with
    | nil => exact isPrintable_of_mem_quotedText hs c hc
    | cons s' more =>
      rcases List.mem_append.1 hc with hc | hc
      · exact isPrintable_of_mem_quotedText hs c hc
      · rcases List.mem_cons.1 hc with rfl | hc
        · rfl
        · rcases List.mem_cons.1 hc with rfl | hc
          · rfl
          · exact ih hmore c hc

theorem toList_toString_nat (n : Nat) : (toString n).toList = Nat.toDigits 10 n := Nat.toList_repr

theorem toList_toString_negSucc (n : Nat) :
    (toString (Int.negSucc n)).toList = '-' :: (toString (n + 1)).toList := by
  show ("-" ++ toString (n + 1)).toList = _
  rw [String.toList_append]
  rfl

theorem isWord_of_mem_toDigits {n : Nat} {c : Char} (h : c ∈ Nat.toDigits 10 n) :
    isWord c = true := by
  simp [isWord, Char.isAlphanum, Decimal.isDigit_of_mem_toDigits h]

/-- A number is a word. -/
theorem isWord_of_mem_toString {n : Int} : ∀ c ∈ (toString n).toList, isWord c = true := by
  intro c hc
  cases n with
  | ofNat n => exact isWord_of_mem_toDigits (toList_toString_nat n ▸ hc)
  | negSucc n =>
    rw [toList_toString_negSucc] at hc
    rcases List.mem_cons.1 hc with rfl | hc
    · rfl
    · exact isWord_of_mem_toDigits (toList_toString_nat (n + 1) ▸ hc)

theorem toString_eq_cons (n : Int) :
    ∃ c cs, (toString n).toList = c :: cs ∧ (c = '-' → cs ≠ []) := by
  cases n with
  | ofNat n =>
    obtain ⟨d, ds, hdigits, hd⟩ := Decimal.toDigits_eq_cons n
    refine ⟨d, ds, (toList_toString_nat n).trans hdigits, ?_⟩
    rintro rfl
    cases hd
  | negSucc n =>
    refine ⟨'-', (toString (n + 1)).toList, toList_toString_negSucc n, fun _ => ?_⟩
    rw [toList_toString_nat]
    exact Nat.toDigits_ne_nil

theorem Written.isPrintable_of_mem_chars {v : Written} (hv : v.IsPrintable) :
    ∀ c ∈ v.chars, isPrintable c = true := by
  cases v with
  | text s => exact isPrintable_of_mem_quotedText hv
  | texts ss =>
    intro c hc
    rcases List.mem_cons.1 hc with rfl | hc
    · rfl
    · rcases List.mem_append.1 hc with hc | hc
      · exact isPrintable_of_mem_commaTexts hv c hc
      · rw [List.mem_singleton.1 hc]
        rfl
  | number n => exact fun c hc => isPrintable_of_isWord (isWord_of_mem_toString c hc)
  | nothing => exact List.all_eq_true.1 (by decide)

namespace Scan

variable {rest rest' behind tail source : Source} {columns : List Nat}
  {keyAllowed keyAllowed' : Bool} {c : Char} {m : Mark}

/-! ## Inside a line -/

/-- Behind the column of the innermost block nothing is closed. -/
theorem advance_inside (columns : List Nat)
    (h : passSpace false false keyAllowed rest = (keyAllowed', rest'))
    (hcolumns : ∀ column ∈ columns.head?, column ≤ rest'.mark.column) :
    (inBlock rest columns keyAllowed).advance = .ok (inBlock rest' columns keyAllowed') := by
  obtain ⟨hdrop, hends⟩ := endings_of_head hcolumns
  rw [advance_inBlock h, hdrop, hends]
  rfl

/-- The end of a line allows a key again. -/
theorem reads_newline (m : Mark) (cs : List Char) (columns : List Nat) :
    (inBlock (Source.ofChars m ('\n' :: cs)) columns keyAllowed).Reads []
      (inBlock (Source.ofChars (m.nextLine 1) cs) columns true) := by
  rw [Source.ofChars_newline]
  refine (Reads.refl _).congr ?_ (Nat.le_succ _)
  have hpass : passSpace false false keyAllowed
      (.char '\n' m (Source.ofChars (m.nextLine 1) cs)) =
        passSpace false false true (Source.ofChars (m.nextLine 1) cs) := by
    rw [passSpace]
    simp [isBreak]
  rw [advance_inBlock hpass, advance_inBlock rfl]

/-! ## Text between quotes -/

section

variable {s : String} (hs : ∀ c ∈ s.toList, isPrintable c = true) (m : Mark) (cs : List Char)

include hs

theorem length_quotedText_append : (Source.ofChars m (quotedText s ++ cs)).length =
    (quotedText s).length + (Source.ofChars (m.nextBy (quotedText s).length) cs).length :=
  Source.length_ofChars_append _ _
    (fun c hc => startsBreak_of_isPrintable (isPrintable_of_mem_quotedText hs c hc)) m

/-- A text between quotes starts with a quote, and what is behind it is read up to the other one. -/
theorem quotedText_source : ∃ tail, Source.ofChars m (quotedText s ++ cs) = .char '"' m tail ∧
    tail.quoted '"' m = .ok (s, Source.ofChars (m.nextBy (quotedText s).length) cs) := by
  refine ⟨_, Source.ofChars_cons m _ (by decide), ?_⟩
  have hquoted := quoted_escapedChars m hs cs (Mark.next_column_ne_zero m)
  have hmark : m.next.nextBy ((escapedChars s.toList).length + 1) =
      m.nextBy (quotedText s).length := by
    rw [← Mark.nextBy_succ, quotedText]
    simp
  rw [String.ofList_toList, hmark] at hquoted
  rw [← hquoted]
  exact congrArg (fun cs => (Source.ofChars m.next cs).quoted '"' m) (List.append_assoc ..)

/-- Where no key may start, text between quotes is just a scalar. -/
theorem reads_quoted {columns : List Nat} (hcolumns : ∀ column ∈ columns.head?, column ≤ m.column) :
    ∃ n, (inBlock (Source.ofChars m (' ' :: (quotedText s ++ cs))) columns false).Reads
      [.scalar .doubleQuoted s] (inBlock (Source.ofChars n cs) columns false) := by
  obtain ⟨tail, hsource, hquoted⟩ := quotedText_source hs m.next cs
  have hlength := length_quotedText_append hs m.next cs
  refine ⟨m.next.nextBy (quotedText s).length, ?_⟩
  rw [Source.ofChars_cons m _ (by decide)]
  rw [hsource] at hlength ⊢
  have hpass : passSpace false false false (.char ' ' m (.char '"' m.next tail)) =
      (false, .char '"' m.next tail) := rfl
  have hadvance := advance_inside columns hpass
    fun column h => Nat.le_succ_of_le (hcolumns column h)
  have htake := take_quote (s := inBlock (.char '"' m.next tail) columns false) rfl
  have hquote : takeQuoted (inBlock (.char '"' m.next tail) columns false) .doubleQuoted '"' =
      .ok ⟨Source.ofChars (m.next.nextBy (quotedText s).length) cs, none, [], columns, false,
        [.token ⟨.scalar .doubleQuoted s, m.next,
          (Source.ofChars (m.next.nextBy (quotedText s).length) cs).mark⟩]⟩ := by
    show (tail.quoted '"' m.next >>= _) = _
    rw [hquoted]
    rfl
  refine reads_step hadvance rfl (htake.trans hquote) rfl rfl rfl ?_
  show (Source.ofChars (m.next.nextBy (quotedText s).length) cs).length <
    (Source.char '"' m.next tail).length + 1
  omega

end

/-! ## Words -/

/-- Where no key may start, a word at the end of its line is just a scalar. -/
theorem reads_wordLine (columns : List Nat) {w : List Char} (hw : ∀ c ∈ w, isWord c = true)
    (hhead : ∃ c w', w = c :: w' ∧ (c = '-' → w' ≠ [])) {column : Nat} {m : Mark}
    (hcolumn : column ≤ m.column) {cs : List Char} (hcs : StartsLine (column + 1) cs) :
    ∃ n : Mark, n.column = 0 ∧
      (inBlock (Source.ofChars m (' ' :: (w ++ '\n' :: cs))) (column :: columns) false).Reads
        [.scalar .plain (String.ofList w)]
        (inBlock (Source.ofChars n cs) (column :: columns) true) := by
  obtain ⟨c, w', rfl, hdash⟩ := hhead
  have hc := hw c List.mem_cons_self
  obtain ⟨behind, hline, hpass, hagain⟩ := plainChars_line m.next hcs
    (m.next.nextBy (c :: w').length)
  have hplain : plainChars m.next false (column + 1) .empty
      (.char c m.next (Source.ofChars m.next.next (w' ++ '\n' :: cs))) =
        .ok ⟨c :: w', true, behind⟩ := by
    rw [← Source.ofChars_cons _ _ (startsBreak_of_isWord hc)]
    exact plainChars_append hw (fun _ _ => .inl (Mark.next_column_ne_zero m)) hline
  have hspaced : c = '-' → (Source.ofChars m.next.next (w' ++ '\n' :: cs)).isSpaced = false := by
    intro hd
    obtain ⟨d, w'', rfl⟩ := List.exists_cons_of_ne_nil (hdash hd)
    have hword := hw d (.tail _ List.mem_cons_self)
    rw [List.cons_append, Source.ofChars_cons _ _ (startsBreak_of_isWord hword)]
    exact isBlank_of_isWord hword
  refine ⟨(m.next.nextBy (c :: w').length).nextLine 1, rfl, ?_⟩
  have hlength := Source.length_ofChars_append (c :: w') ('\n' :: cs)
    (fun d hd => startsBreak_of_isWord (hw d hd)) m.next
  rw [Source.ofChars_newline] at hlength
  rw [Source.ofChars_cons m _ (by decide)]
  rw [List.cons_append, Source.ofChars_cons _ _ (startsBreak_of_isWord hc)] at hlength ⊢
  generalize Source.ofChars m.next.next (w' ++ '\n' :: cs) = tail at hplain hspaced hlength
  have hpass' : passSpace false false false (.char ' ' m (.char c m.next tail)) =
      (false, .char c m.next tail) := passSpace_solid false false (isSolid_of_isWord hc) m.next tail
  have hadvance := advance_inside (column :: columns) hpass' (by
    rintro _ ⟨⟩
    exact Nat.le_succ_of_le hcolumn)
  have htake := take_word (s := inBlock (.char c m.next tail) (column :: columns) false) rfl hc
    (.inl (Mark.next_column_ne_zero m)) hspaced
  have htakePlain : takePlain (inBlock (.char c m.next tail) (column :: columns) false) =
      .ok ⟨behind, none, [], column :: columns, true,
        [.token ⟨.scalar .plain (String.ofList (c :: w')), m.next, behind.mark⟩]⟩ := by
    show (plainChars m.next false (column + 1) .empty (.char c m.next tail) >>= _) = _
    rw [hplain]
    rfl
  refine reads_step hadvance rfl (htake.trans htakePlain) rfl rfl ?_ ?_
  · exact (advance_inBlock hagain).trans (advance_inBlock hpass).symm
  · show (Source.ofChars ((m.next.nextBy (c :: w').length).nextLine 1) cs).length <
      (Source.char c m.next tail).length + 1
    rw [hlength, Source.length]
    omega

/-! ## Texts in brackets -/

/-- A scan in a collection behind a scalar that may be a key. -/
def behindItem (t : Token) (columns : List Nat) (behind : Source) : Scan :=
  ⟨behind, some ⟨t.mark, false⟩, [none], columns, false, [.reserved t.mark, .token t]⟩

theorem dropStale_behindItem (t : Token) (columns : List Nat) (behind : Source) :
    dropStale (behindItem t columns behind) = .ok (behindItem t columns behind) ∨
      dropStale (behindItem t columns behind) =
        .ok ⟨behind, none, [none], columns, false, [.token t]⟩ := by
  cases hstale : isStale (behindItem t columns behind) ⟨t.mark, false⟩ with
  | false =>
    left
    have hexpire : expire (behindItem t columns behind) (some ⟨t.mark, false⟩) =
        .ok (some ⟨t.mark, false⟩, behindItem t columns behind) := by
      rw [expire, hstale]
      rfl
    show (expire (behindItem t columns behind) (some ⟨t.mark, false⟩) >>= _) = _
    rw [hexpire]
    rfl
  | true =>
    right
    have hexpire : expire (behindItem t columns behind) (some ⟨t.mark, false⟩) =
        .ok (none, giveUp (behindItem t columns behind) ⟨t.mark, false⟩) := by
      rw [expire, hstale]
      rfl
    show (expire (behindItem t columns behind) (some ⟨t.mark, false⟩) >>= _) = _
    rw [hexpire]
    simp [giveUp, behindItem, bind, Except.bind, pure, Except.pure]

section

variable {d : Char} {n : Mark} {tail : Source} {kind : TokenKind} {outer : List (Option Key)}
  {allowed : Bool}

/-- The character ends what stands in front of it in a collection. -/
structure EndsItem (d : Char) (n : Mark) (tail : Source) (kind : TokenKind)
    (outer : List (Option Key)) (allowed : Bool) : Prop where
  solid : IsSolid d
  take : ∀ {scan : Scan} {columns : List Nat} {keyAllowed : Bool} {held : List Slot},
    scan.rest = .char d n tail →
    scan.dropKey = .ok ⟨.char d n tail, none, [none], columns, keyAllowed, held⟩ →
    scan.take d =
      .ok ⟨tail, none, outer, columns, allowed, held ++ [.token ⟨kind, n, tail.mark⟩]⟩
  fresh : ∀ columns held, dropStale ⟨tail, none, outer, columns, allowed, held⟩ =
    .ok ⟨tail, none, outer, columns, allowed, held⟩

theorem endsItem_comma (n : Mark) (tail : Source) : EndsItem ',' n tail .flowEntry [none] true where
  solid := ⟨by decide, by decide, by decide⟩
  take := by
    intro scan columns keyAllowed held hrest hdrop
    rw [take_comma hrest, takeFlowEntry, hdrop]
    rfl
  fresh := fun _ _ => rfl

theorem endsItem_bracket (n : Mark) (tail : Source) :
    EndsItem ']' n tail .flowSequenceEnd [] false where
  solid := ⟨by decide, by decide, by decide⟩
  take := by
    intro scan columns keyAllowed held hrest hdrop
    rw [take_closingBracket hrest, takeFlowEnd, hdrop]
    rfl
  fresh := fun _ _ => rfl

/-- **A text in brackets is a scalar**, whether a place is still reserved in front of it or not. The
mark behind it, which ends the text, comes with it. -/
theorem reads_item (columns : List Nat) {s : String}
    (hs : ∀ c ∈ s.toList, isPrintable c = true) {m : Mark} {cs : List Char} {source : Source}
    (hpass : passSpace true false true source = (true, Source.ofChars m (quotedText s ++ cs)))
    (hle : (Source.ofChars m (quotedText s ++ cs)).length ≤ source.length)
    (hcs : Source.ofChars (m.nextBy (quotedText s).length) cs = .char d n tail)
    (hends : EndsItem d n tail kind outer allowed) :
    (inCollection source columns true).Reads [.scalar .doubleQuoted s, kind]
      ⟨tail, none, outer, columns, allowed, []⟩ := by
  obtain ⟨text, hsource, hquoted⟩ := quotedText_source hs m cs
  rw [hsource] at hpass
  rw [hcs] at hquoted
  have htake := take_quote (s := inCollection (.char '"' m text) columns true) rfl
  obtain ⟨t, ht⟩ : ∃ t : Token, t = ⟨.scalar .doubleQuoted s, m, n⟩ := ⟨_, rfl⟩
  have hquote : takeQuoted (inCollection (.char '"' m text) columns true) .doubleQuoted '"' =
      .ok (behindItem t columns (.char d n tail)) := by
    show (text.quoted '"' m >>= _) = _
    rw [hquoted, ht]
    rfl
  have hpass' := passSpace_solid true false hends.solid n tail
  have hbehind : (Source.char d n tail).length < source.length := by
    have hpos : 0 < (quotedText s).length := Nat.succ_pos _
    rw [length_quotedText_append hs m cs, hcs] at hle
    omega
  rcases dropStale_behindItem t columns (.char d n tail) with hstale | hstale
  · have hitem : (inCollection source columns true).Reads []
        (behindItem t columns (.char d n tail)) :=
      reads_step (advance_inCollection columns hpass) rfl (htake.trans hquote) hstale rfl rfl
        hbehind
    have hadvance : advance (behindItem t columns (.char d n tail)) =
        .ok (behindItem t columns (.char d n tail)) := by
      rw [advance]
      simp only [behindItem] at hstale ⊢
      rw [show inFlow _ = true from rfl, hpass', hstale]
      rfl
    have hdrop : dropKey (behindItem t columns (.char d n tail)) =
        .ok ⟨.char d n tail, none, [none], columns, false, [.token t]⟩ := by
      simp [dropKey, behindItem, giveUp, pure, Except.pure]
    have hmark := reads_step hadvance rfl (hends.take rfl hdrop) (hends.fresh _ _) rfl rfl
      (Nat.lt_succ_self _)
    rw [ht] at hitem hmark
    exact hitem.trans hmark
  · have hitem : (inCollection source columns true).Reads [t.kind]
        (inCollection (.char d n tail) columns false) :=
      reads_step (advance_inCollection columns hpass) rfl (htake.trans hquote) hstale rfl rfl
        hbehind
    have hmark := reads_step (advance_inCollection columns hpass') rfl
      (hends.take rfl rfl) (hends.fresh _ _) rfl rfl (Nat.lt_succ_self _)
    rw [ht] at hitem
    exact hitem.trans hmark

end

theorem commaTexts_cons (s : String) (more : List String) :
    ∃ cs, commaTexts (s :: more) = quotedText s ++ cs := by
  cases more with
  | nil => exact ⟨[], (List.append_nil _).symm⟩
  | cons => exact ⟨_, rfl⟩

theorem passSpace_commaTexts (s : String) (more : List String) (m : Mark) (cs : List Char) :
    passSpace true false true (Source.ofChars m (commaTexts (s :: more) ++ cs)) =
      (true, Source.ofChars m (commaTexts (s :: more) ++ cs)) := by
  obtain ⟨cs', hcs⟩ := commaTexts_cons s more
  rw [hcs, quotedText, List.cons_append, List.cons_append, Source.ofChars_cons m _ (by decide)]
  exact passSpace_solid true true ⟨by decide, by decide, by decide⟩ m _

/-- The texts in brackets are read up to the closing one. -/
theorem reads_commaTexts (columns : List Nat) {cs : List Char} (s : String) (more : List String) :
    (∀ s' ∈ s :: more, ∀ c ∈ s'.toList, isPrintable c = true) → ∀ {m : Mark} {source : Source},
      passSpace true false true source =
        (true, Source.ofChars m (commaTexts (s :: more) ++ ']' :: cs)) →
      (Source.ofChars m (commaTexts (s :: more) ++ ']' :: cs)).length ≤ source.length →
      ∃ n, (inCollection source columns true).Reads (commaKinds (s :: more) ++ [.flowSequenceEnd])
        (inBlock (Source.ofChars n cs) columns false) := by
  induction more generalizing s with
  | nil =>
    intro hs m source hpass hle
    exact ⟨_, reads_item columns (hs s List.mem_cons_self) hpass hle
      (Source.ofChars_cons _ _ (by decide)) (endsItem_bracket _ _)⟩
  | cons s' more ih =>
    intro hs m source hpass hle
    obtain ⟨hs, hmore⟩ := List.forall_mem_cons.1 hs
    have hsplit : commaTexts (s :: s' :: more) ++ ']' :: cs =
        quotedText s ++ (',' :: ' ' :: (commaTexts (s' :: more) ++ ']' :: cs)) := by
      simp [commaTexts]
    rw [hsplit] at hpass hle
    obtain ⟨n, hn⟩ : ∃ n, n = m.nextBy (quotedText s).length := ⟨_, rfl⟩
    have hitem := reads_item columns hs hpass hle
      (Source.ofChars_cons _ _ (by decide)) (endsItem_comma _ _)
    rw [← hn, Source.ofChars_cons n.next _ (by decide)] at hitem
    have hpass' : passSpace true false true (.char ' ' n.next (Source.ofChars n.next.next
        (commaTexts (s' :: more) ++ ']' :: cs))) =
          (true, Source.ofChars n.next.next (commaTexts (s' :: more) ++ ']' :: cs)) :=
      passSpace_commaTexts s' more n.next.next (']' :: cs)
    obtain ⟨end', hrest⟩ := ih s' hmore hpass' (Nat.le_succ _)
    exact ⟨end', hitem.trans hrest⟩

/-- Where no key may start, texts in brackets are a sequence. -/
theorem reads_texts {ss : List String} (hss : ∀ s ∈ ss, ∀ c ∈ s.toList, isPrintable c = true)
    {columns : List Nat} {m : Mark} (hcolumns : ∀ column ∈ columns.head?, column ≤ m.column)
    (cs : List Char) :
    ∃ n, (inBlock (Source.ofChars m (' ' :: '[' :: (commaTexts ss ++ ']' :: cs)))
      columns false).Reads (.flowSequenceStart :: (commaKinds ss ++ [.flowSequenceEnd]))
        (inBlock (Source.ofChars n cs) columns false) := by
  rw [Source.ofChars_cons m _ (by decide), Source.ofChars_cons m.next _ (by decide)]
  generalize hinside : Source.ofChars m.next.next (commaTexts ss ++ ']' :: cs) = inside
  have hpass : passSpace false false false (.char ' ' m (.char '[' m.next inside)) =
      (false, .char '[' m.next inside) := rfl
  have hadvance := advance_inside columns hpass
    fun column h => Nat.le_succ_of_le (hcolumns column h)
  have htake := take_bracket (s := inBlock (.char '[' m.next inside) columns false) rfl
  have hopen : (inBlock (.char ' ' m (.char '[' m.next inside)) columns false).Reads
      [.flowSequenceStart] (inCollection inside columns true) :=
    reads_step hadvance rfl htake rfl rfl rfl (Nat.lt_succ_of_lt (Nat.lt_succ_self _))
  cases ss with
  | nil =>
    rw [commaTexts, List.nil_append, Source.ofChars_cons _ _ (by decide)] at hinside
    subst hinside
    have hbracket := passSpace_solid true true (c := ']') ⟨by decide, by decide, by decide⟩
      m.next.next (Source.ofChars m.next.next.next cs)
    have hclose := reads_step (advance_inCollection columns hbracket) rfl
      ((endsItem_bracket _ _).take rfl rfl) rfl rfl rfl (Nat.lt_succ_self _)
    exact ⟨_, hopen.trans hclose⟩
  | cons s more =>
    rw [← hinside] at hopen ⊢
    obtain ⟨n, hclose⟩ := reads_commaTexts columns s more hss
      (passSpace_commaTexts s more m.next.next (']' :: cs)) (Nat.le_refl _)
    exact ⟨n, hopen.trans hclose⟩

/-! ## Any value -/

/-- **A value is read**, up to the start of the next line. -/
theorem reads_value {v : Written} (hv : v.IsPrintable) {column : Nat} (columns : List Nat)
    {m : Mark} (hcolumn : column ≤ m.column) {cs : List Char} (hcs : StartsLine (column + 1) cs) :
    ∃ n : Mark, n.column = 0 ∧
      (inBlock (Source.ofChars m (' ' :: (v.chars ++ '\n' :: cs))) (column :: columns) false).Reads
        v.kinds (inBlock (Source.ofChars n cs) (column :: columns) true) := by
  have hcolumns : ∀ column' ∈ (column :: columns).head?, column' ≤ m.column := by
    rintro _ ⟨⟩
    exact hcolumn
  cases v with
  | text s =>
    obtain ⟨n, hread⟩ := reads_quoted hv m ('\n' :: cs) hcolumns
    have hnext := hread.trans (reads_newline n cs _)
    exact ⟨n.nextLine 1, rfl, hnext⟩
  | texts ss =>
    obtain ⟨n, hread⟩ := reads_texts hv hcolumns ('\n' :: cs)
    have hnext := hread.trans (reads_newline n cs _)
    rw [List.append_nil] at hnext
    have hchars : (Written.texts ss).chars ++ '\n' :: cs =
        '[' :: (commaTexts ss ++ ']' :: '\n' :: cs) := by simp [Written.chars]
    rw [hchars]
    exact ⟨n.nextLine 1, rfl, hnext⟩
  | number n =>
    have hread := reads_wordLine columns isWord_of_mem_toString (toString_eq_cons n)
      hcolumn hcs
    rw [String.ofList_toList] at hread
    exact hread
  | nothing =>
    exact reads_wordLine columns (List.all_eq_true.1 (by decide)) ⟨_, _, rfl, by decide⟩ hcolumn hcs

end Scan

end Vendoring.Yaml

import Mathlib.Data.List.TakeWhile
import Vendoring.Proofs.Yaml.Written

/-!
# Lines of a block mapping

A text holds one mapping: each line is a key with its value, or the key of a section, whose lines
are indented and are a mapping in turn. **The tokens of such a text are those of the mapping**
(`tokens_ofLines`). A block is closed only where the next line starts, so the tokens of a line come
with the ends of the blocks in front of it.
-/

set_option autoImplicit false

namespace Vendoring.Yaml

/-! ## How lines are written -/

/-- A key and its value. -/
structure Field where
  key : String
  value : Written
  deriving DecidableEq, Repr

namespace Field

/-- The line of a field. -/
def chars (indentation : Nat) (f : Field) : List Char :=
  List.replicate indentation ' ' ++ f.key.toList ++ ": ".toList ++ f.value.chars ++ ['\n']

/-- The key is short enough to be one, and the value can be written. -/
structure IsWritable (f : Field) : Prop where
  key : IsKey f.key.toList
  length : f.key.length ≤ Scan.maxKeyLength
  value : f.value.IsPrintable

instance (f : Field) : Decidable f.IsWritable :=
  decidable_of_iff (IsKey f.key.toList ∧ f.key.length ≤ Scan.maxKeyLength ∧ f.value.IsPrintable)
    ⟨fun ⟨hkey, hlength, hvalue⟩ => ⟨hkey, hlength, hvalue⟩, fun h => ⟨h.key, h.length, h.value⟩⟩

/-- The kinds of the tokens of a field. -/
def kinds (f : Field) : List TokenKind := Scan.keyKinds f.key.toList ++ f.value.kinds

theorem chars_append (f : Field) (count : Nat) (cs : List Char) :
    f.chars count ++ cs =
      List.replicate count ' ' ++
        (f.key.toList ++ ':' :: ' ' :: (f.value.chars ++ '\n' :: cs)) := by
  simp [chars]

end Field

/-- The lines of fields start with an indentation that is less than `least`. -/
theorem startsLine_fields {fields : List Field} (hfields : ∀ f ∈ fields, f.IsWritable)
    {count least : Nat} (hcount : count < least) {cs : List Char} (hcs : StartsLine least cs) :
    StartsLine least (fields.flatMap (Field.chars count) ++ cs) := by
  cases fields with
  | nil => exact hcs
  | cons f fields =>
    rw [List.flatMap_cons, List.append_assoc, f.chars_append]
    exact (hfields f List.mem_cons_self).key.startsLine hcount _

namespace Scan

theorem columnsAt_eq_cons (count : Nat) (columns : List Nat) :
    ∃ outer, columnsAt count columns = count :: outer := by
  rw [columnsAt]
  split
  · next h =>
    cases hcolumns : columns.dropWhile (count < ·) with
    | nil =>
      rw [hcolumns] at h
      cases h
    | cons column outer =>
      rw [hcolumns] at h
      exact ⟨outer, by rw [Option.some.inj h]⟩
  · exact ⟨_, rfl⟩

/-- **A field is read**, up to the start of the next line. -/
theorem reads_field {f : Field} (hf : f.IsWritable) {m : Mark} (hm : m.column = 0) (count : Nat)
    (columns : List Nat) {cs : List Char} (hcs : StartsLine (count + 1) cs) :
    ∃ n : Mark, n.column = 0 ∧
      (inBlock (Source.ofChars m (f.chars count ++ cs)) columns true).Reads
        (blockKinds count columns ++ f.kinds)
        (inBlock (Source.ofChars n cs) (columnsAt count columns) true) := by
  have htail : ∀ n, (Source.ofChars n (' ' :: (f.value.chars ++ '\n' :: cs))).isSpaced = true :=
    fun _ => rfl
  have hkey := reads_key columns hm count hf.key hf.length htail
  obtain ⟨outer, houter⟩ := columnsAt_eq_cons count columns
  have hcolumn : count ≤ (m.nextBy (count + (f.key.toList.length + 1))).column := by
    simp [Mark.nextBy, hm]
  obtain ⟨n, hn, hvalue⟩ := reads_value hf.value outer hcolumn hcs
  rw [← houter] at hvalue
  have hread := hkey.trans hvalue
  rw [List.append_assoc] at hread
  rw [f.chars_append]
  exact ⟨n, hn, hread⟩

theorem blockKinds_continued (count : Nat) (outer : List Nat) :
    blockKinds count (count :: outer) = [] := by
  simp [blockKinds]

theorem columnsAt_continued (count : Nat) (outer : List Nat) :
    columnsAt count (count :: outer) = count :: outer := by
  simp [columnsAt]

theorem blockKinds_opened {column count : Nat} (h : column < count) (outer : List Nat) :
    blockKinds count (column :: outer) = [.blockMappingStart] := by
  simp [blockKinds, Nat.le_of_lt h, Nat.ne_of_lt h]

theorem columnsAt_opened {column count : Nat} (h : column < count) (outer : List Nat) :
    columnsAt count (column :: outer) = count :: column :: outer := by
  simp [columnsAt, Nat.le_of_lt h, Nat.ne_of_lt h]

/-- **The fields of a block are read**, up to the start of the line behind them. -/
theorem reads_fields {fields : List Field} (hfields : ∀ f ∈ fields, f.IsWritable) (count : Nat)
    (outer : List Nat) {cs : List Char} (hcs : StartsLine (count + 1) cs) :
    ∀ {m : Mark}, m.column = 0 → ∃ n : Mark, n.column = 0 ∧
      (inBlock (Source.ofChars m (fields.flatMap (Field.chars count) ++ cs))
        (count :: outer) true).Reads (fields.flatMap Field.kinds)
        (inBlock (Source.ofChars n cs) (count :: outer) true) := by
  induction fields with
  | nil => exact fun {m} hm => ⟨m, hm, .refl _⟩
  | cons f fields ih =>
    intro m hm
    obtain ⟨hf, hfields⟩ := List.forall_mem_cons.1 hfields
    have hmore := startsLine_fields hfields (Nat.lt_succ_self count) hcs
    obtain ⟨n, hn, hfield⟩ := reads_field hf hm count (count :: outer) hmore
    rw [blockKinds_continued, columnsAt_continued] at hfield
    obtain ⟨n', hn', hrest⟩ := ih hfields hn
    rw [List.flatMap_cons, List.flatMap_cons, List.append_assoc]
    exact ⟨n', hn', hfield.trans hrest⟩

end Scan

/-! ## Sections -/

/-- A line of a mapping with the lines that belong to it. -/
inductive Line where
  | field (f : Field)
  /-- A key with a mapping of its own. -/
  | block (key : String) (indentation : Nat) (fields : List Field)
  deriving Repr

namespace Line

/-- The key at the start of a line. -/
def key : Line → String
  | field f => f.key
  | block key _ _ => key

/-- The characters of a line. -/
def chars : Line → List Char
  | field f => f.chars 0
  | block key count fields => key.toList ++ ":\n".toList ++ fields.flatMap (Field.chars count)

/-- The keys are short enough, and a section has lines and is indented. -/
inductive IsWritable : Line → Prop
  | field {f : Field} (h : f.IsWritable) : IsWritable (.field f)
  | block {key : String} {count : Nat} {fields : List Field} (hkey : IsKey key.toList)
    (hlength : key.length ≤ Scan.maxKeyLength) (hcount : 0 < count) (hne : fields ≠ [])
    (hfields : ∀ f ∈ fields, f.IsWritable) : IsWritable (.block key count fields)

/-- The kinds of the tokens of a line. -/
def kinds : Line → List TokenKind
  | field f => f.kinds
  | block key _ fields =>
    Scan.keyKinds key.toList ++ .blockMappingStart :: (fields.flatMap Field.kinds ++ [.blockEnd])

end Line

namespace Scan

/-- **A section is read**, but for the end of its block. -/
theorem reads_block {key : String} {count : Nat} {fields : List Field}
    (h : (Line.block key count fields).IsWritable) {m : Mark} (hm : m.column = 0)
    (columns : List Nat) {cs : List Char} (hcs : StartsLine 1 cs) :
    ∃ n : Mark, n.column = 0 ∧
      (inBlock (Source.ofChars m ((Line.block key count fields).chars ++ cs)) columns true).Reads
        (blockKinds 0 columns ++
          (keyKinds key.toList ++ .blockMappingStart :: fields.flatMap Field.kinds))
        (inBlock (Source.ofChars n cs) (count :: columnsAt 0 columns) true) := by
  cases h with
  | block hkey hlength hcount hne hfields =>
    obtain ⟨f, more, rfl⟩ := List.exists_cons_of_ne_nil hne
    obtain ⟨hf, hmore⟩ := List.forall_mem_cons.1 hfields
    have hend : StartsLine (count + 1) cs := hcs.mono (Nat.le_add_left 1 count)
    have hlines := startsLine_fields hmore (Nat.lt_succ_self count) hend
    obtain ⟨outer, houter⟩ := columnsAt_eq_cons 0 columns
    have hkeyLine := (reads_key columns hm 0 hkey hlength fun _ => rfl).trans
      (reads_newline _ (f.chars count ++ (more.flatMap (Field.chars count) ++ cs)) _)
    rw [houter] at hkeyLine ⊢
    have hstart : ((m.nextBy (0 + (key.toList.length + 1))).nextLine 1).column = 0 := rfl
    obtain ⟨n, hn, hfirst⟩ := reads_field hf hstart count (0 :: outer) hlines
    rw [blockKinds_opened hcount, columnsAt_opened hcount] at hfirst
    obtain ⟨n', hn', hrest⟩ := reads_fields hmore count (0 :: outer) hend hn
    have hread := hkeyLine.trans (hfirst.trans hrest)
    have hchars : (Line.block key count (f :: more)).chars ++ cs = List.replicate 0 ' ' ++
        (key.toList ++ ':' :: '\n' :: (f.chars count ++
          (more.flatMap (Field.chars count) ++ cs))) := by
      simp [Line.chars]
    have hkinds : blockKinds 0 columns ++
        (keyKinds key.toList ++ .blockMappingStart :: (f :: more).flatMap Field.kinds) =
          blockKinds 0 columns ++ keyKinds key.toList ++ [] ++
            ([.blockMappingStart] ++ f.kinds ++ more.flatMap Field.kinds) := by
      simp
    rw [hchars, hkinds]
    exact ⟨n', hn', hread⟩

/-- **A line is read.** The ends of its blocks are still to come. -/
theorem reads_line {line : Line} (h : line.IsWritable) {m : Mark} (hm : m.column = 0)
    (columns : List Nat) {cs : List Char} (hcs : StartsLine 1 cs) :
    ∃ (n : Mark) (inner : List Nat) (kinds : List TokenKind), n.column = 0 ∧
      (∀ column ∈ inner, 0 < column) ∧ line.kinds = kinds ++ inner.map (fun _ => .blockEnd) ∧
      (inBlock (Source.ofChars m (line.chars ++ cs)) columns true).Reads
        (blockKinds 0 columns ++ kinds)
        (inBlock (Source.ofChars n cs) (inner ++ columnsAt 0 columns) true) := by
  cases line with
  | field f =>
    cases h with
    | field hf =>
      obtain ⟨n, hn, hread⟩ := reads_field hf hm 0 columns hcs
      exact ⟨n, [], f.kinds, hn, by simp, by simp [Line.kinds], hread⟩
  | block key count fields =>
    have hcount : 0 < count := by
      cases h
      assumption
    obtain ⟨n, hn, hread⟩ := reads_block h hm columns hcs
    exact ⟨n, [count], _, hn, by simpa using hcount, by simp [Line.kinds], hread⟩

/-! ## A whole text -/

/-- The ends of some blocks, and the end of the text. -/
def lastTokens (columns : List Nat) (m : Mark) : List Token :=
  (columns.map fun _ => ⟨.blockEnd, m, m⟩) ++ [⟨.endOfText, m, m⟩]

/-- The tokens at the end of a text. -/
def finalTokens (columns : List Nat) (m : Mark) : List Token :=
  endings columns m ++ lastTokens (columns.dropWhile (m.column < ·)) (lastMark m)

theorem kinds_finalTokens (columns : List Nat) (m : Mark) :
    (finalTokens columns m).map Token.kind =
      columns.map (fun _ => .blockEnd) ++ [.endOfText] := by
  have hsplit : columns.map (fun _ => TokenKind.blockEnd) =
      (columns.takeWhile (m.column < ·)).map (fun _ => .blockEnd) ++
        (columns.dropWhile (m.column < ·)).map (fun _ => .blockEnd) := by
    rw [← List.map_append, List.takeWhile_append_dropWhile]
  rw [finalTokens, List.map_append, kinds_endings, lastTokens, List.map_append, List.map_map,
    hsplit, List.append_assoc]
  rfl

theorem takeEnd_inBlock (m : Mark) (columns : List Nat) (keyAllowed : Bool) (held : List Slot) :
    takeEnd ⟨.ended m, none, [], columns, keyAllowed, held⟩ =
      .ok ⟨.ended (lastMark m), none, [], [], false,
        held ++ (lastTokens columns (lastMark m)).map .token⟩ := by
  have htake : columns.takeWhile (fun _ => true) = columns :=
    List.takeWhile_eq_self_iff.2 fun _ _ => rfl
  have hdrop : columns.dropWhile (fun _ => true) = [] :=
    List.dropWhile_eq_nil_iff.2 fun _ _ => rfl
  have hclose : closeAllBlocks ⟨.ended (lastMark m), none, [], columns, keyAllowed, held⟩ =
      ⟨.ended (lastMark m), none, [], [], keyAllowed, held ++ columns.map
        fun _ => .token ⟨.blockEnd, lastMark m, lastMark m⟩⟩ := by
    simp [closeAllBlocks, closeWhile, inFlow, mark, Source.mark, htake, hdrop]
  have hend : takeEnd ⟨.ended m, none, [], columns, keyAllowed, held⟩ =
      (closeAllBlocks ⟨.ended (lastMark m), none, [], columns, keyAllowed, held⟩).dropKey >>=
        fun s => ({ s with keyAllowed := false }.push .endOfText s.mark
          (.ended (lastMark m))).dropStale := rfl
  rw [hend, hclose, lastTokens, List.map_append, List.map_map, ← List.append_assoc]
  rfl

/-- At the end of a text all blocks are closed. -/
theorem gives_end (m : Mark) (columns : List Nat) :
    (inBlock (.ended m) columns true).Gives (columns.map (fun _ => .blockEnd) ++ [.endOfText])
      none := by
  refine ⟨finalTokens columns m, kinds_finalTokens columns m, fun bound hbound => ?_⟩
  cases bound with
  | zero => cases hbound
  | succ bound =>
    have hsettled := settled_append (finalTokens columns m) []
    rw [List.append_nil] at hsettled
    have hadvance : (inBlock (.ended m) columns true).advance =
        .ok ⟨.ended m, none, [], columns.dropWhile (m.column < ·), true,
          (endings columns m).map .token⟩ := advance_inBlock rfl
    rw [Tokens.ofScan, hadvance]
    simp only [bind, Except.bind, takeEnd_inBlock, pure, Except.pure]
    rw [← List.map_append, ← finalTokens, hsettled, if_pos True.intro]
    exact congrArg (Tokens.mk · none) (List.append_nil _)

end Scan

theorem startsLine_line {line : Line} (h : line.IsWritable) (cs : List Char) :
    StartsLine 1 (line.chars ++ cs) := by
  cases h with
  | field h =>
    rw [Line.chars, Field.chars_append]
    exact h.key.startsLine Nat.one_pos _
  | block hkey =>
    rw [Line.chars, List.append_assoc, List.append_assoc]
    exact hkey.startsLine Nat.one_pos _

theorem startsLine_lines {lines : List Line} (h : ∀ line ∈ lines, line.IsWritable) :
    StartsLine 1 (lines.flatMap Line.chars) := by
  cases lines with
  | nil => exact .inl rfl
  | cons line lines => exact startsLine_line (h line List.mem_cons_self) _

namespace Scan

/-- **The lines of a text give their tokens**, behind the ends of the blocks that are still open. -/
theorem gives_lines {lines : List Line} (h : ∀ line ∈ lines, line.IsWritable) :
    ∀ {m : Mark} {inner : List Nat}, m.column = 0 → (∀ column ∈ inner, 0 < column) →
      (inBlock (Source.ofChars m (lines.flatMap Line.chars)) (inner ++ [0]) true).Gives
        (inner.map (fun _ => .blockEnd) ++ (lines.flatMap Line.kinds ++ [.blockEnd, .endOfText]))
        none := by
  induction lines with
  | nil =>
    intro m inner _ _
    have hend := gives_end m (inner ++ [0])
    rw [List.map_append, List.append_assoc] at hend
    exact hend
  | cons line lines ih =>
    intro m inner hm hinner
    obtain ⟨hline, hlines⟩ := List.forall_mem_cons.1 h
    obtain ⟨n, inner', kinds, hn, hinner', hkinds, hread⟩ :=
      reads_line hline hm (inner ++ [0]) (startsLine_lines hlines)
    have hpositive : ∀ column ∈ inner, decide (0 < column) = true := fun column hcolumn =>
      decide_eq_true (hinner column hcolumn)
    have hclosed : blockKinds 0 (inner ++ [0]) = inner.map fun _ => .blockEnd := by
      simp [blockKinds, List.takeWhile_append_of_pos hpositive,
        List.dropWhile_append_of_pos hpositive]
    have hcolumns : columnsAt 0 (inner ++ [0]) = [0] := by
      simp [columnsAt, List.dropWhile_append_of_pos hpositive]
    rw [hclosed, hcolumns] at hread
    have hgives := hread.gives (ih hlines hn hinner')
    rw [List.flatMap_cons, List.flatMap_cons, hkinds]
    simpa using hgives

/-- **A text with lines gives the tokens of a mapping.** -/
theorem gives_text {lines : List Line} (hne : lines ≠ [])
    (h : ∀ line ∈ lines, line.IsWritable) {m : Mark} (hm : m.column = 0) :
    (inBlock (Source.ofChars m (lines.flatMap Line.chars)) [] true).Gives
      (.blockMappingStart :: (lines.flatMap Line.kinds ++ [.blockEnd, .endOfText])) none := by
  obtain ⟨line, more, rfl⟩ := List.exists_cons_of_ne_nil hne
  obtain ⟨hline, hmore⟩ := List.forall_mem_cons.1 h
  obtain ⟨n, inner, kinds, hn, hinner, hkinds, hread⟩ :=
    reads_line hline hm [] (startsLine_lines hmore)
  have hgives := hread.gives (gives_lines hmore hn hinner)
  rw [List.flatMap_cons, List.flatMap_cons, hkinds]
  simpa [blockKinds] using hgives

end Scan

theorem Field.isAllowed_of_mem {f : Field} (hkey : IsKey f.key.toList)
    (hvalue : f.value.IsPrintable) (count : Nat) : ∀ c ∈ f.chars count, isAllowed c = true := by
  intro c hc
  simp only [Field.chars, List.mem_append, List.mem_singleton] at hc
  rcases hc with (((hc | hc) | hc) | hc) | rfl
  · rw [List.eq_of_mem_replicate hc]
    decide
  · exact isAllowed_of_isPrintable (isPrintable_of_isWord (hkey.words c hc))
  · exact List.all_eq_true.1 (by decide : ": ".toList.all isAllowed = true) c hc
  · exact isAllowed_of_isPrintable (Written.isPrintable_of_mem_chars hvalue c hc)
  · decide

theorem Line.IsWritable.isAllowed_of_mem {line : Line} (h : line.IsWritable) :
    ∀ c ∈ line.chars, isAllowed c = true := by
  intro c hc
  cases h with
  | field h => exact Field.isAllowed_of_mem h.key h.value 0 c hc
  | block hkey _ _ _ hfields =>
    rw [Line.chars, List.mem_append, List.mem_append] at hc
    rcases hc with (hc | hc) | hc
    · exact isAllowed_of_isPrintable (isPrintable_of_isWord (hkey.words c hc))
    · exact List.all_eq_true.1 (by decide : ":\n".toList.all isAllowed = true) c hc
    · obtain ⟨f, hf, hc⟩ := List.mem_flatMap.1 hc
      exact Field.isAllowed_of_mem (hfields f hf).key (hfields f hf).value _ c hc

/-- **The tokens of a text are those of the mapping that its lines are.** -/
theorem tokens_ofLines {lines : List Line} (hne : lines ≠ [])
    (h : ∀ line ∈ lines, line.IsWritable) :
    ∃ tokens : List Token, tokens.map Token.kind =
        .blockMappingStart :: (lines.flatMap Line.kinds ++ [.blockEnd, .endOfText]) ∧
      Tokens.ofString (String.ofList (lines.flatMap Line.chars)) = ⟨tokens, none⟩ := by
  have hallowed : ∀ c ∈ lines.flatMap Line.chars, isAllowed c = true := by
    intro c hc
    obtain ⟨line, hline, hc⟩ := List.mem_flatMap.1 hc
    exact (h line hline).isAllowed_of_mem c hc
  exact (Scan.gives_text hne h rfl).ofString hallowed

/-- A key that is too long is read, but the colon behind it is a fault. -/
theorem tokens_longKey {f : Field} (hkey : IsKey f.key.toList) (hvalue : f.value.IsPrintable)
    (hlong : Scan.maxKeyLength < f.key.length) :
    ∃ (tokens : List Token) (fault : Fault), tokens.map Token.kind = [.scalar .plain f.key] ∧
      Tokens.ofString (String.ofList (f.chars 0)) = ⟨tokens, some fault⟩ := by
  have hallowed := Field.isAllowed_of_mem hkey hvalue 0
  have hchars := f.chars_append 0 []
  rw [List.append_nil] at hchars
  rw [hchars] at hallowed ⊢
  have htail : ∀ n, (Source.ofChars n (' ' :: (f.value.chars ++ ['\n']))).isSpaced = true :=
    fun _ => rfl
  obtain ⟨fault, hgives⟩ := Scan.gives_longKey .start hkey hlong htail
  obtain ⟨tokens, hkinds, htokens⟩ := hgives.ofString hallowed
  rw [String.ofList_toList] at hkinds
  exact ⟨tokens, fault, hkinds, htokens⟩

end Vendoring.Yaml

import Vendoring.Proofs.Yaml.Scalar

/-!
# Tokens of a block mapping

What a scan gives is put together of steps: some tokens come next, and then reading goes on from a
later place (`Scan.Reads`), until all has come up to a fault (`Scan.Gives`). Each step leaves fewer
characters than it found, so no bound on the steps is kept along.

A word at the start of a line is held back until the colon behind it shows that it is a key. **A key
gives its tokens and those of the blocks that it closes and opens** (`Scan.reads_key`). A word that
is too long for a key stays a scalar, and the colon is a fault (`Scan.gives_longKey`).
-/

set_option autoImplicit false

namespace Vendoring.Yaml

namespace Scan

/-! ## Reading on -/

/-- Tokens of these kinds come next, and then reading goes on as the second scan does. -/
def Reads (s : Scan) (kinds : List TokenKind) (s' : Scan) : Prop :=
  ∃ (steps : Nat) (tokens : List Token), tokens.map Token.kind = kinds ∧
    steps + s'.rest.length ≤ s.rest.length ∧
    ∀ bound, Tokens.ofScan (bound + steps) s = (Tokens.ofScan bound s').after tokens

theorem Reads.refl (s : Scan) : s.Reads [] s :=
  ⟨0, [], rfl, Nat.le_of_eq (Nat.zero_add _), fun _ => rfl⟩

theorem Reads.trans {s s' s'' : Scan} {kinds more : List TokenKind} (h : s.Reads kinds s')
    (h' : s'.Reads more s'') : s.Reads (kinds ++ more) s'' := by
  obtain ⟨steps, tokens, rfl, hlength, hscan⟩ := h
  obtain ⟨steps', tokens', rfl, hlength', hscan'⟩ := h'
  refine ⟨steps' + steps, tokens ++ tokens', List.map_append, by omega, fun bound => ?_⟩
  rw [← Nat.add_assoc, hscan, hscan', Tokens.after, Tokens.after, Tokens.after, List.append_assoc]

/-- All that comes is tokens of these kinds, up to a fault. -/
def Gives (s : Scan) (kinds : List TokenKind) (fault? : Option Fault) : Prop :=
  ∃ tokens : List Token, tokens.map Token.kind = kinds ∧
    ∀ bound, s.rest.length < bound → Tokens.ofScan bound s = ⟨tokens, fault?⟩

theorem Reads.gives {s s' : Scan} {kinds more : List TokenKind} {fault? : Option Fault}
    (h : s.Reads kinds s') (h' : s'.Gives more fault?) : s.Gives (kinds ++ more) fault? := by
  obtain ⟨steps, tokens, rfl, hlength, hscan⟩ := h
  obtain ⟨tokens', rfl, hrest⟩ := h'
  refine ⟨tokens ++ tokens', List.map_append, fun bound hbound => ?_⟩
  obtain ⟨left, rfl⟩ : ∃ left, bound = left + steps := ⟨bound - steps, by omega⟩
  rw [hscan, hrest left (by omega)]
  rfl

/-- What the start of a text gives is all there is. -/
theorem Gives.ofString {cs : List Char} {kinds : List TokenKind} {fault? : Option Fault}
    (h : (start (Source.ofChars .start cs)).Gives kinds fault?)
    (hallowed : ∀ c ∈ cs, isAllowed c = true) :
    ∃ tokens : List Token, tokens.map Token.kind = kinds ∧
      Tokens.ofString (String.ofList cs) = ⟨tokens, fault?⟩ := by
  obtain ⟨tokens, hkinds, hscan⟩ := h
  refine ⟨tokens, hkinds, ?_⟩
  rw [Tokens.ofString, Source.ofString, String.toList_ofList, forbiddenOffset?_eq_none hallowed]
  exact hscan _ (Nat.lt_succ_self _)

/-- How reading goes on depends on the next token alone. -/
theorem ofScan_congr {s s' : Scan} (h : s.advance = s'.advance) (bound : Nat) :
    Tokens.ofScan bound s = Tokens.ofScan bound s' := by
  cases bound with
  | zero => rfl
  | succ bound => rw [Tokens.ofScan, Tokens.ofScan, h]

theorem Reads.congr {s s' s'' : Scan} {kinds : List TokenKind} (h : s.Reads kinds s')
    (hadvance : s'.advance = s''.advance) (hlength : s''.rest.length ≤ s'.rest.length) :
    s.Reads kinds s'' := by
  obtain ⟨steps, tokens, hkinds, hle, hscan⟩ := h
  refine ⟨steps, tokens, hkinds, by omega, fun bound => ?_⟩
  rw [hscan, ofScan_congr hadvance]

/-- **One token is read**, with those that it releases. -/
theorem reads_step {s s₁ taken s₂ s' : Scan} {c : Char} {m : Mark} {rest : Source}
    {tokens : List Token} {held : List Slot} (hadvance : s.advance = .ok s₁)
    (hrest : s₁.rest = .char c m rest) (htake : s₁.take c = .ok taken)
    (hstale : taken.dropStale = .ok s₂) (hsettled : settled s₂.held = (tokens, held))
    (hnext : { s₂ with held }.advance = s'.advance) (hlength : s'.rest.length < s.rest.length) :
    s.Reads (tokens.map Token.kind) s' := by
  refine ⟨1, tokens, rfl, by omega, fun bound => ?_⟩
  rw [Tokens.ofScan, hadvance]
  simp only [bind, Except.bind, hrest, htake, hstale, pure, Except.pure, hsettled,
    Bool.false_eq_true, if_false]
  rw [ofScan_congr hnext]

/-! ## Where reading is -/

/-- Outside of flow collections, with nothing held back. -/
def inBlock (rest : Source) (columns : List Nat) (keyAllowed : Bool) : Scan :=
  ⟨rest, none, [], columns, keyAllowed, []⟩

/-- In a flow collection inside blocks, with nothing held back. -/
def inCollection (rest : Source) (columns : List Nat) (keyAllowed : Bool) : Scan :=
  ⟨rest, none, [none], columns, keyAllowed, []⟩

/-- The ends of the blocks that start behind a column. -/
def endings (columns : List Nat) (m : Mark) : List Token :=
  (columns.takeWhile (m.column < ·)).map fun _ => ⟨.blockEnd, m, m⟩

theorem kinds_endings (columns : List Nat) (m : Mark) :
    (endings columns m).map Token.kind =
      (columns.takeWhile (m.column < ·)).map fun _ => .blockEnd := by
  rw [endings, List.map_map]
  rfl

variable {rest rest' : Source} {columns : List Nat} {keyAllowed keyAllowed' : Bool}

theorem advance_inBlock (h : passSpace false false keyAllowed rest = (keyAllowed', rest')) :
    (inBlock rest columns keyAllowed).advance =
      .ok ⟨rest', none, [], columns.dropWhile (rest'.mark.column < ·), keyAllowed',
        (endings columns rest'.mark).map .token⟩ := by
  have hpass : passSpace (inBlock rest columns keyAllowed).inFlow false keyAllowed rest =
      (keyAllowed', rest') := h
  rw [advance, endings, List.map_map]
  simp only [inBlock] at hpass ⊢
  rw [hpass]
  rfl

theorem advance_inCollection (columns : List Nat)
    (h : passSpace true false keyAllowed rest = (keyAllowed', rest')) :
    (inCollection rest columns keyAllowed).advance =
      .ok (inCollection rest' columns keyAllowed') := by
  have hpass : passSpace (inCollection rest columns keyAllowed).inFlow false keyAllowed rest =
      (keyAllowed', rest') := h
  rw [advance]
  simp only [inCollection] at hpass ⊢
  rw [hpass]
  rfl

/-- No block is closed where none starts behind the column. -/
theorem endings_of_head {m : Mark} (h : ∀ column ∈ columns.head?, column ≤ m.column) :
    columns.dropWhile (m.column < ·) = columns ∧ endings columns m = [] := by
  cases columns with
  | nil => exact ⟨rfl, rfl⟩
  | cons column columns =>
    have hnot : ¬ m.column < column := Nat.not_lt.2 (h column rfl)
    constructor
    · rw [List.dropWhile_cons_of_neg (by simpa using hnot)]
    · rw [endings, List.takeWhile_cons_of_neg (by simpa using hnot)]
      rfl

/-! ## What a character starts -/

section

variable {s : Scan} {c : Char} {m : Mark} {behind : Source}

/-- A word is a plain scalar. -/
theorem take_word (hrest : s.rest = .char c m behind) (hc : isWord c = true)
    (hm : BeginsNoMarker c m) (hdash : c = '-' → behind.isSpaced = false) :
    s.take c = s.takePlain := by
  have hne : ∀ b : Char, isWord b = false → c ≠ b := fun b hb => ne_of_isWord hc hb
  have hparts := hm.isDocumentMarker behind
  have hstarts : startsPlain s.inFlow c behind = true := by
    rw [startsPlain]
    by_cases hd : c = '-'
    · have hspaced := hdash hd
      cases behind with
      | ended m => simp [hd, Source.next?]
      | char d m behind =>
        rw [Source.isSpaced, Source.endsOr, Bool.or_eq_false_iff] at hspaced
        simp [hd, Source.next?, hspaced.1]
    · have hblank := isBlank_of_isWord hc
      rw [Bool.or_eq_false_iff] at hblank
      simp [hd, hblank.1, isFlowMark, hne '?' rfl, hne ':' rfl, hne ',' rfl, hne '[' rfl,
        hne ']' rfl, hne '\x7b' rfl, hne '\x7d' rfl, hne '#' rfl, hne '&' rfl, hne '*' rfl,
        hne '!' rfl, hne '|' rfl, hne '>' rfl, hne '\x27' rfl, hne '"' rfl, hne '%' rfl,
        hne '@' rfl, hne '\x60' rfl]
  have hentry : (c = '-' && behind.isSpaced) = false := by
    by_cases hd : c = '-' <;> simp [hd, hdash]
  rw [take, hrest]
  simp only [Source.tail, hparts.1, hparts.2, hentry, hstarts, hne '%' rfl, hne '[' rfl,
    hne '\x7b' rfl, hne ']' rfl, hne '\x7d' rfl, hne ',' rfl, hne '?' rfl, hne ':' rfl, hne '*' rfl,
    hne '&' rfl, hne '!' rfl, hne '|' rfl, hne '>' rfl, hne '\x27' rfl, hne '"' rfl, decide_false,
    Bool.false_and, Bool.false_eq_true, if_false, if_true]

theorem take_colon (hrest : s.rest = .char ':' m behind) (hspaced : behind.isSpaced = true) :
    s.take ':' = s.takeValue := by
  have hparts := BeginsNoMarker.isDocumentMarker (c := ':') (m := m) (.inr (by decide)) behind
  rw [take, hrest]
  simp [Source.tail, hparts.1, hparts.2, hspaced]

theorem take_quote (hrest : s.rest = .char '"' m behind) :
    s.take '"' = s.takeQuoted .doubleQuoted '"' := by
  have hparts := BeginsNoMarker.isDocumentMarker (c := '"') (m := m) (.inr (by decide)) behind
  rw [take, hrest]
  simp [Source.tail, hparts.1, hparts.2]

theorem take_bracket (hrest : s.rest = .char '[' m behind) :
    s.take '[' = s.takeFlowStart .flowSequenceStart := by
  have hparts := BeginsNoMarker.isDocumentMarker (c := '[') (m := m) (.inr (by decide)) behind
  rw [take, hrest]
  simp [hparts.1, hparts.2]

theorem take_closingBracket (hrest : s.rest = .char ']' m behind) :
    s.take ']' = s.takeFlowEnd .flowSequenceEnd := by
  have hparts := BeginsNoMarker.isDocumentMarker (c := ']') (m := m) (.inr (by decide)) behind
  rw [take, hrest]
  simp [hparts.1, hparts.2]

theorem take_comma (hrest : s.rest = .char ',' m behind) : s.take ',' = s.takeFlowEntry := by
  have hparts := BeginsNoMarker.isDocumentMarker (c := ',') (m := m) (.inr (by decide)) behind
  rw [take, hrest]
  simp [hparts.1, hparts.2]

end

/-! ## Keys -/

theorem dropStale_fresh {s : Scan} {key : Key} (hkey : s.key? = some key)
    (houter : s.outerKeys = []) (hfresh : s.isStale key = false) : s.dropStale = .ok s := by
  obtain ⟨rest, key?, outerKeys, columns, keyAllowed, held⟩ := s
  dsimp only at hkey houter
  subst hkey houter
  have hexpire : expire ⟨rest, some key, [], columns, keyAllowed, held⟩ (some key) =
      .ok (some key, ⟨rest, some key, [], columns, keyAllowed, held⟩) := by
    rw [expire, hfresh]
    rfl
  show (expire ⟨rest, some key, [], columns, keyAllowed, held⟩ (some key) >>= _) = _
  rw [hexpire]
  rfl

theorem settled_append (tokens : List Token) (held : List Slot) :
    settled (tokens.map .token ++ held) = (tokens ++ (settled held).1, (settled held).2) := by
  induction tokens with
  | nil => rfl
  | cons t tokens ih => rw [List.map_cons, List.cons_append, settled, ih]; rfl

section

variable {c : Char} {start : Mark} {rest behind : Source} {columns : List Nat} {word : List Char}

/-- A word where a key may start is a scalar behind a reserved place. -/
theorem takePlain_reserving {held : List Slot}
    (h : ∀ least, plainChars start false least .empty (.char c start rest) =
      .ok ⟨word, false, behind⟩) :
    takePlain ⟨.char c start rest, none, [], columns, true, held⟩ =
      .ok ⟨behind, some ⟨start, columns.head? = some start.column⟩, [], columns, false,
        held ++
          [.reserved start, .token ⟨.scalar .plain (String.ofList word), start, behind.mark⟩]⟩ := by
  have hreserve : reserve ⟨.char c start rest, none, [], columns, true, held⟩ =
      .ok ⟨.char c start rest, some ⟨start, columns.head? = some start.column⟩, [], columns, true,
        held ++ [.reserved start]⟩ := rfl
  rw [takePlain, hreserve]
  show (plainChars start false _ .empty (.char c start rest) >>= _) = _
  rw [h, List.append_cons held (.reserved start) [_]]
  rfl

theorem isStale_nextBy {s : Scan} {key : Key} {length : Nat}
    (h : s.rest.mark = key.mark.nextBy length) (hle : length ≤ maxKeyLength) :
    s.isStale key = false := by
  rw [isStale, mark, h, Bool.or_eq_false_iff, decide_eq_false_iff_not, decide_eq_false_iff_not]
  exact ⟨Nat.lt_irrefl _, Nat.not_lt.2 (Nat.add_le_add_left hle _)⟩

/-- A scan that is at the colon behind a word. -/
def behindWord (start : Mark) (word : List Char) (columns : List Nat) (behind : Source) : Scan :=
  ⟨behind, some ⟨start, columns.head? = some start.column⟩, [], columns, false,
    [.reserved start, .token ⟨.scalar .plain (String.ofList word), start, behind.mark⟩]⟩

/-- **A word at the start of a line closes the blocks behind its column, and is held back.** -/
theorem reads_word {source : Source} {length : Nat}
    (hpass : passSpace false false true source = (true, .char c start rest))
    (hc : isWord c = true) (hdash : c ≠ '-')
    (hplain : ∀ least, plainChars start false least .empty (.char c start rest) =
      .ok ⟨word, false, behind⟩)
    (hmark : behind.mark = start.nextBy length) (hle : length ≤ maxKeyLength)
    (hlength : behind.length < source.length) :
    (inBlock source columns true).Reads
      ((columns.takeWhile (start.column < ·)).map fun _ => .blockEnd)
      (behindWord start word (columns.dropWhile (start.column < ·)) behind) := by
  have hmarker : BeginsNoMarker c start := .inr ⟨hdash, ne_of_isWord hc (by decide)⟩
  have htake := take_word (s := ⟨.char c start rest, none, [],
    columns.dropWhile (start.column < ·), true, (endings columns start).map .token⟩) rfl hc hmarker
    fun hd => absurd hd hdash
  rw [takePlain_reserving hplain] at htake
  rw [← kinds_endings columns start]
  refine reads_step (advance_inBlock hpass) rfl htake
    (dropStale_fresh rfl rfl (isStale_nextBy hmark hle)) ?_ rfl hlength
  rw [settled_append]
  exact congrArg (·, _) (List.append_nil _)

theorem closeBlocks_of_head {s : Scan} (h : ∀ column ∈ s.columns.head?, column ≤ s.mark.column) :
    s.closeBlocks = s := by
  obtain ⟨hdrop, hends⟩ := endings_of_head h
  rw [endings, List.map_eq_nil_iff] at hends
  rw [closeBlocks, closeWhile, hdrop, hends]
  split
  · rfl
  · simp

/-- What the colon behind a key opens, and the columns of the open blocks then. -/
def opening (start : Mark) (columns : List Nat) : List Token × List Nat :=
  if columns.head? = some start.column then ([], columns)
  else ([⟨.blockMappingStart, start, start⟩], start.column :: columns)

/-- The tokens of a key and the colon behind it. -/
def keyTokens (start : Mark) (word : List Char) (m : Mark) (tail : Source) : List Token :=
  [⟨.key, start, start⟩, ⟨.scalar .plain (String.ofList word), start, m⟩, ⟨.value, m, tail.mark⟩]

theorem takeValue_behindWord (word : List Char)
    (hcolumns : ∀ column ∈ columns.head?, column ≤ start.column)
    (m : Mark) (tail : Source) :
    (behindWord start word columns (.char ':' m tail)).takeValue =
      .ok ⟨tail, none, [], (opening start columns).2, false,
        ((opening start columns).1 ++ keyTokens start word m tail).map .token⟩ := by
  have hopen : openBlock (behindWord start word columns (.char ':' m tail)) .blockMappingStart
      start = ((opening start columns).1.map .token,
        { behindWord start word columns (.char ':' m tail) with
          columns := (opening start columns).2 }) := by
    rw [openBlock, opening]
    cases columns with
    | nil => rfl
    | cons column columns =>
      have hcolumn := hcolumns column rfl
      by_cases heq : column = start.column
      · simp [behindWord, heq]
      · have hlt : ¬ start.column ≤ column := by omega
        simp [behindWord, inFlow, heq, hlt]
  rw [takeValue]
  simp only [behindWord, pure, Except.pure] at hopen ⊢
  rw [hopen]
  simp [keyTokens, push, pushMark, mark, Source.mark, Source.tail]

/-- **A colon behind a word makes it a key.** -/
theorem reads_colon (hcolumns : ∀ column ∈ columns.head?, column ≤ start.column) {length : Nat}
    (hle : length ≤ maxKeyLength) {tail : Source} (hspaced : tail.isSpaced = true) :
    (behindWord start word columns (.char ':' (start.nextBy length) tail)).Reads
      (((opening start columns).1 ++ keyTokens start word (start.nextBy length) tail).map
        Token.kind)
      (inBlock tail (opening start columns).2 false) := by
  have hadvance : (behindWord start word columns (.char ':' (start.nextBy length) tail)).advance =
      .ok (behindWord start word columns (.char ':' (start.nextBy length) tail)) := by
    have hclose : closeBlocks (behindWord start word columns
        (.char ':' (start.nextBy length) tail)) =
          behindWord start word columns (.char ':' (start.nextBy length) tail) :=
      closeBlocks_of_head fun column h => Nat.le_trans (hcolumns column h) (Nat.le_add_right _ _)
    have hstale : dropStale (behindWord start word columns
        (.char ':' (start.nextBy length) tail)) =
          .ok (behindWord start word columns (.char ':' (start.nextBy length) tail)) :=
      dropStale_fresh rfl rfl (isStale_nextBy rfl hle)
    have hpass := passSpace_solid false false (c := ':')
      ⟨by decide, by decide, by decide⟩ (start.nextBy length) tail
    rw [advance]
    simp only [behindWord] at hclose hstale hpass ⊢
    rw [show inFlow _ = false from rfl, hpass]
    rw [hstale]
    exact congrArg Except.ok hclose
  have htake := (take_colon rfl hspaced).trans
    (takeValue_behindWord word hcolumns (start.nextBy length) tail)
  refine reads_step hadvance rfl htake rfl ?_ rfl (Nat.lt_succ_self _)
  have hsettled := settled_append ((opening start columns).1 ++
    keyTokens start word (start.nextBy length) tail) []
  rw [List.append_nil] at hsettled
  exact hsettled.trans (congrArg (·, _) (List.append_nil _))

end

/-- The columns of the open blocks behind a key. -/
def columnsAt (count : Nat) (columns : List Nat) : List Nat :=
  if (columns.dropWhile (count < ·)).head? = some count then columns.dropWhile (count < ·)
  else count :: columns.dropWhile (count < ·)

/-- What a key at a column tells about the blocks around it. -/
def blockKinds (count : Nat) (columns : List Nat) : List TokenKind :=
  ((columns.takeWhile (count < ·)).map fun _ => .blockEnd) ++
    if (columns.dropWhile (count < ·)).head? = some count then [] else [.blockMappingStart]

/-- The kinds of the tokens of a key. -/
def keyKinds (key : List Char) : List TokenKind :=
  [.key, .scalar .plain (String.ofList key), .value]

/-- **A key is read**, with the colon behind it. -/
theorem reads_key (columns : List Nat) {m : Mark} (hm : m.column = 0) (count : Nat)
    {key tail : List Char} (hkey : IsKey key) (hlength : key.length ≤ maxKeyLength)
    (htail : ∀ n, (Source.ofChars n tail).isSpaced = true) :
    (inBlock (Source.ofChars m (List.replicate count ' ' ++ (key ++ ':' :: tail)))
      columns true).Reads
      (blockKinds count columns ++ keyKinds key)
      (inBlock (Source.ofChars (m.nextBy (count + (key.length + 1))) tail)
        (columnsAt count columns) false) := by
  have hspaces := Source.length_ofChars_append (List.replicate count ' ') (key ++ ':' :: tail)
    (fun d hd => by rw [List.eq_of_mem_replicate hd]; decide) m
  have hwords := Source.length_ofChars_append key (':' :: tail)
    (fun d hd => startsBreak_of_isWord (hkey.words d hd)) (m.nextBy count)
  have hpass := passSpace_spaces false true count (key ++ ':' :: tail) m
  have hcolumn : (m.nextBy count).column = count := by simp [Mark.nextBy, hm]
  rw [List.length_replicate] at hspaces
  rw [← Mark.nextBy_add]
  generalize m.nextBy count = start at hspaces hwords hpass hcolumn
  obtain ⟨c, rest, hc, hdash, hsource, hplain⟩ := hkey.source start htail
  have hlt : (Source.char ':' (start.nextBy key.length)
      (Source.ofChars (start.nextBy (key.length + 1)) tail)).length <
        (Source.ofChars m (List.replicate count ' ' ++ (key ++ ':' :: tail))).length := by
    obtain ⟨d, key', hcons, -⟩ := hkey.head
    have hpos : 0 < key.length := by simp [hcons]
    rw [Source.ofChars_cons _ tail (by decide)] at hwords
    rw [hspaces, hwords]
    exact Nat.lt_of_lt_of_le (Nat.lt_add_of_pos_left hpos) (Nat.le_add_left _ _)
  rw [hsource, passSpace_solid _ _ (isSolid_of_isWord hc)] at hpass
  have hcolumns : ∀ column ∈ (columns.dropWhile (start.column < ·)).head?,
      column ≤ start.column := by
    intro column h
    have hnot := List.head?_dropWhile_not (start.column < ·) columns
    rw [Option.mem_def.1 h] at hnot
    simpa using hnot
  have hread := (reads_word hpass hc hdash hplain rfl hlength hlt).trans
    (reads_colon hcolumns hlength (htail _))
  have hkinds : (opening start (columns.dropWhile (start.column < ·))).1.map Token.kind =
      if (columns.dropWhile (count < ·)).head? = some count then [] else [.blockMappingStart] := by
    rw [opening, hcolumn]
    split <;> rfl
  have hopened : (opening start (columns.dropWhile (start.column < ·))).2 =
      columnsAt count columns := by
    rw [opening, columnsAt, hcolumn]
    split <;> rfl
  rw [List.map_append, hkinds, hopened, hcolumn] at hread
  rw [blockKinds, List.append_assoc]
  exact hread

/-! ## Keys that are too long -/

section

variable {c : Char} {start : Mark} {rest behind source : Source} {word : List Char} {length : Nat}

/-- Where another scalar could stand too, a word that is too long for a key is just a scalar. -/
theorem reads_longWord (hpass : passSpace false false true source = (true, .char c start rest))
    (hc : isWord c = true) (hdash : c ≠ '-')
    (hplain : ∀ least, plainChars start false least .empty (.char c start rest) =
      .ok ⟨word, false, behind⟩)
    (hmark : behind.mark = start.nextBy length) (hlong : maxKeyLength < length)
    (hlength : behind.length < source.length) :
    (inBlock source [] true).Reads [.scalar .plain (String.ofList word)]
      (inBlock behind [] false) := by
  have hmarker : BeginsNoMarker c start := .inr ⟨hdash, ne_of_isWord hc (by decide)⟩
  have htake := take_word (s := inBlock (.char c start rest) [] true) rfl hc hmarker
    fun hd => absurd hd hdash
  have hplain' : takePlain (inBlock (.char c start rest) [] true) =
      .ok (behindWord start word [] behind) := takePlain_reserving hplain
  have hstale : dropStale (behindWord start word [] behind) =
      .ok ⟨behind, none, [], [], false,
        [.token ⟨.scalar .plain (String.ofList word), start, behind.mark⟩]⟩ := by
    have hlate : isStale (behindWord start word [] behind) ⟨start, false⟩ = true := by
      have hindex : behind.mark.index = start.index + length := congrArg Mark.index hmark
      rw [isStale, Bool.or_eq_true, decide_eq_true_eq, decide_eq_true_eq]
      exact .inr (hindex ▸ Nat.add_lt_add_left hlong _)
    have hexpire : expire (behindWord start word [] behind) (some ⟨start, false⟩) =
        .ok (none, giveUp (behindWord start word [] behind) ⟨start, false⟩) := by
      rw [expire, hlate]
      rfl
    show (expire (behindWord start word [] behind) (some ⟨start, false⟩) >>= _) = _
    rw [hexpire]
    simp [giveUp, behindWord, bind, Except.bind, pure, Except.pure]
  have hadvance : (inBlock source [] true).advance = .ok (inBlock (.char c start rest) [] true) :=
    advance_inBlock hpass
  exact reads_step hadvance rfl (htake.trans hplain') hstale rfl rfl hlength

/-- A colon behind something that is no key is a fault. -/
theorem gives_colon {m : Mark} {tail : Source} (hspaced : tail.isSpaced = true) :
    (inBlock (.char ':' m tail) [] false).Gives [] (some (.malformed .valueNotAllowed m none)) := by
  have hpass := passSpace_solid false false (c := ':') ⟨by decide, by decide, by decide⟩ m tail
  have hadvance : (inBlock (.char ':' m tail) [] false).advance =
      .ok (inBlock (.char ':' m tail) [] false) := advance_inBlock hpass
  have htake := take_colon (s := inBlock (.char ':' m tail) [] false) rfl hspaced
  have hfault : takeValue (inBlock (.char ':' m tail) [] false) =
      .error (.malformed .valueNotAllowed m none) := rfl
  refine ⟨[], rfl, fun bound hbound => ?_⟩
  cases bound with
  | zero => cases hbound
  | succ bound =>
    rw [Tokens.ofScan, hadvance]
    simp only [bind, Except.bind, inBlock] at htake hfault ⊢
    rw [htake, hfault]

end

/-- **A key that is too long breaks the text off.** -/
theorem gives_longKey (m : Mark) {key tail : List Char} (hkey : IsKey key)
    (hlong : maxKeyLength < key.length) (htail : ∀ n, (Source.ofChars n tail).isSpaced = true) :
    ∃ fault, (inBlock (Source.ofChars m (key ++ ':' :: tail)) [] true).Gives
      [.scalar .plain (String.ofList key)] (some fault) := by
  obtain ⟨c, rest, hc, hdash, hsource, hplain⟩ := hkey.source m htail
  have hlength := Source.length_ofChars_append key (':' :: tail)
    (fun d hd => startsBreak_of_isWord (hkey.words d hd)) m
  rw [Source.ofChars_cons _ _ (by decide), hsource] at hlength
  rw [hsource]
  have hlt : (Source.char ':' (m.nextBy key.length)
      (Source.ofChars (m.nextBy (key.length + 1)) tail)).length < (Source.char c m rest).length :=
    hlength ▸ Nat.lt_add_of_pos_left (Nat.lt_of_le_of_lt (Nat.zero_le _) hlong)
  have hread := reads_longWord (passSpace_solid _ _ (isSolid_of_isWord hc) m rest) hc hdash hplain
    rfl hlong hlt
  exact ⟨_, hread.gives (gives_colon (htail _))⟩

end Scan

end Vendoring.Yaml

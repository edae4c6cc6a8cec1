import Vendoring.Json.Compact
import Vendoring.Proofs.Json.Reader

/-!
# Texts in compact form

A character is written in one of three ways: as itself, with a backslash and a letter, or by its
code (`escapeChar_cases`). Either way one step of a reader takes it off the front, so **a text in
compact form is read as what it is** (`reads_text`), and passed over to its end (`reads_skipText`).
-/

set_option autoImplicit false

namespace Vendoring.Json

open Reader

theorem escapeChar_cases (c : Char) :
    (∃ x, x ≠ 'u' ∧ simpleEscape? x = some c ∧ escapeChar c = ['\\', x]) ∨
    (c.toNat < 0x20 ∧ escapeChar c =
      ['\\', 'u', '0', '0', Nat.digitChar (c.toNat / 16), Nat.digitChar (c.toNat % 16)]) ∨
    (¬ c.toNat < 0x20 ∧ c ≠ '"' ∧ c ≠ '\\' ∧ escapeChar c = [c]) := by
  unfold escapeChar
  split
  · exact .inl ⟨'"', by decide, rfl, rfl⟩
  · exact .inl ⟨'\\', by decide, rfl, rfl⟩
  · exact .inl ⟨'b', by decide, rfl, rfl⟩
  · exact .inl ⟨'f', by decide, rfl, rfl⟩
  · exact .inl ⟨'n', by decide, rfl, rfl⟩
  · exact .inl ⟨'r', by decide, rfl, rfl⟩
  · exact .inl ⟨'t', by decide, rfl, rfl⟩
  · next hquote hbackslash _ _ _ _ _ =>
    by_cases hc : c.toNat < 0x20
    · exact .inr (.inl ⟨hc, if_pos hc⟩)
    · exact .inr (.inr ⟨hc, hquote, hbackslash, if_neg hc⟩)

theorem length_le_flatMap_escapeChar (cs : List Char) :
    cs.length ≤ (cs.flatMap escapeChar).length := by
  induction cs with
  | nil => exact Nat.le_refl 0
  | cons c cs ih =>
    have hpos : 1 ≤ (escapeChar c).length := by
      rcases escapeChar_cases c with ⟨x, -, -, h⟩ | ⟨-, h⟩ | ⟨-, -, -, h⟩ <;> rw [h] <;> simp
    rw [List.flatMap_cons, List.length_append, List.length_cons]
    omega

/-! ## Escapes -/

theorem hexDigit?_digitChar :
    ∀ {n : Nat}, n < 16 → hexDigit? (.char (Nat.digitChar n)) = some n := by
  decide

theorem reads_hex4 {a b : Nat} (ha : a < 16) (hb : b < 16) (rest : List Char) :
    Reads hex4 ('0' :: '0' :: Nat.digitChar a :: Nat.digitChar b :: rest)
      (some (a * 16 + b, rest)) := by
  intro p
  have hvalue : Reader.hexValue? (.char '0') (.char '0') (.char (Nat.digitChar a))
      (.char (Nat.digitChar b)) = some (a * 16 + b) := by
    have hzero : hexDigit? (.char '0') = some 0 := rfl
    simp [Reader.hexValue?, hzero, hexDigit?_digitChar ha, hexDigit?_digitChar hb]
  refine ⟨⟨p.line, p.column + 4⟩, ?_⟩
  simp only [hex4, List.map_cons, hvalue]

/-- The code of a control character. -/
theorem reads_hex4_code {c : Char} (hc : c.toNat < 0x20) (rest : List Char) :
    Reads hex4 ('0' :: '0' :: Nat.digitChar (c.toNat / 16) :: Nat.digitChar (c.toNat % 16) :: rest)
      (some (c.toNat, rest)) := by
  have h := reads_hex4 (a := c.toNat / 16) (b := c.toNat % 16) (by omega) (by omega) rest
  rwa [Nat.div_add_mod'] at h

theorem reads_codeEscape {c : Char} (hc : c.toNat < 0x20) (rest : List Char) :
    Reads codeEscape
      ('0' :: '0' :: Nat.digitChar (c.toNat / 16) :: Nat.digitChar (c.toNat % 16) :: rest)
      (some (c, rest)) := by
  refine .bind (reads_hex4_code hc rest) ?_
  have hlow : ¬ isLowSurrogate c.toNat = true := by simp [isLowSurrogate]; omega
  have hhigh : ¬ isHighSurrogate c.toNat = true := by simp [isHighSurrogate]; omega
  rw [if_neg hlow, if_neg hhigh, Char.ofNat_toNat]
  exact .pure c rest

/-- A backslash and a letter, of which the backslash has been taken. -/
theorem reads_escape_simple {c x : Char} (hx : x ≠ 'u') (hc : simpleEscape? x = some c)
    (rest : List Char) :
    Reads escape (x :: rest) (some (c, rest)) ∧ Reads skipEscape (x :: rest) (some ((), rest)) := by
  constructor
  · refine .bind (reads_peek x rest) ?_
    split
    · contradiction
    · next h => cases h; exact absurd rfl hx
    · next h =>
      cases h
      simp only [hc]
      exact .bind (reads_advance x rest) (.pure c rest)
    · next h => cases h
  · refine .bind (reads_peek x rest) ?_
    split
    · contradiction
    · next h => cases h; exact absurd rfl hx
    · next h =>
      cases h
      rw [hc, Option.isSome_some, if_pos rfl]
      exact reads_advance x rest
    · next h => cases h

/-- A code, of which the backslash has been taken. -/
theorem reads_escape_code {c : Char} (hc : c.toNat < 0x20) (rest : List Char) :
    Reads escape
      ('u' :: '0' :: '0' :: Nat.digitChar (c.toNat / 16) :: Nat.digitChar (c.toNat % 16) :: rest)
      (some (c, rest)) ∧
    Reads skipEscape
      ('u' :: '0' :: '0' :: Nat.digitChar (c.toNat / 16) :: Nat.digitChar (c.toNat % 16) :: rest)
      (some ((), rest)) := by
  constructor
  · refine .bind (reads_peek 'u' _) ?_
    exact .bind (reads_advance 'u' _) (reads_codeEscape hc rest)
  · refine .bind (reads_peek 'u' _) ?_
    exact .bind (reads_advance 'u' _) (.bind (reads_hex4_code hc rest) (.pure () rest))

/-! ## Texts -/

/-- **One step takes one character**, however it is written. -/
theorem reads_textFrom_succ {c : Char} {bound : Nat} {kept rest : List Char}
    {result : Option (String × List Char)} (h : Reads (textFrom bound (c :: kept)) rest result) :
    Reads (textFrom (bound + 1) kept) (escapeChar c ++ rest) result := by
  rcases escapeChar_cases c with ⟨x, hx, hmeant, hc⟩ | ⟨hcontrol, hc⟩ | ⟨hwide, hquote, hslash, hc⟩
  · rw [hc]
    refine .bind (reads_peek '\\' _) (.bind (reads_advance '\\' _) ?_)
    exact .bind (reads_escape_simple hx hmeant rest).1 h
  · rw [hc]
    refine .bind (reads_peek '\\' _) (.bind (reads_advance '\\' _) ?_)
    exact .bind (reads_escape_code hcontrol rest).1 h
  · rw [hc]
    refine .bind (reads_peek c rest) ?_
    split
    · contradiction
    · next h => cases h
    · next h => cases h; contradiction
    · next h => cases h; contradiction
    · next hchar =>
      cases hchar
      rw [if_neg hwide]
      exact .bind (reads_advance c rest) h

theorem reads_skipTextFrom_succ {c : Char} {bound : Nat} {rest : List Char}
    {result : Option (Unit × List Char)} (h : Reads (skipTextFrom bound) rest result) :
    Reads (skipTextFrom (bound + 1)) (escapeChar c ++ rest) result := by
  rcases escapeChar_cases c with ⟨x, hx, hmeant, hc⟩ | ⟨hcontrol, hc⟩ | ⟨hwide, hquote, hslash, hc⟩
  · rw [hc]
    refine .bind (reads_peek '\\' _) (.bind (reads_advance '\\' _) ?_)
    exact .bind (reads_escape_simple hx hmeant rest).2 h
  · rw [hc]
    refine .bind (reads_peek '\\' _) (.bind (reads_advance '\\' _) ?_)
    exact .bind (reads_escape_code hcontrol rest).2 h
  · rw [hc]
    refine .bind (reads_peek c rest) ?_
    split
    · contradiction
    · next h => cases h
    · next h => cases h; contradiction
    · next h => cases h; contradiction
    · next hchar =>
      cases hchar
      rw [if_neg hwide]
      exact .bind (reads_advance c rest) h

theorem reads_textFrom {cs : List Char} {bound : Nat} (hbound : cs.length < bound)
    (kept rest : List Char) :
    Reads (textFrom bound kept) (cs.flatMap escapeChar ++ '"' :: rest)
      (some (String.ofList (kept.reverse ++ cs), rest)) := by
  -- The bound falls by one with each character, however many glyphs it is written with.
  induction cs generalizing bound kept with
  | nil =>
    obtain ⟨bound, rfl⟩ := Nat.exists_eq_add_one_of_ne_zero (Nat.ne_zero_of_lt hbound)
    rw [List.append_nil]
    exact .bind (reads_peek '"' rest) (.bind (reads_advance '"' rest) (.pure _ rest))
  | cons c cs ih =>
    obtain ⟨bound, rfl⟩ := Nat.exists_eq_add_one_of_ne_zero (Nat.ne_zero_of_lt hbound)
    have hrest := ih (by simpa using hbound) (c :: kept)
    rw [List.reverse_cons, List.append_assoc, List.singleton_append] at hrest
    rw [List.flatMap_cons, List.append_assoc]
    exact reads_textFrom_succ hrest

theorem reads_skipTextFrom {cs : List Char} {bound : Nat} (hbound : cs.length < bound)
    (rest : List Char) :
    Reads (skipTextFrom bound) (cs.flatMap escapeChar ++ '"' :: rest) (some ((), rest)) := by
  induction cs generalizing bound with
  | nil =>
    obtain ⟨bound, rfl⟩ := Nat.exists_eq_add_one_of_ne_zero (Nat.ne_zero_of_lt hbound)
    exact .bind (reads_peek '"' rest) (reads_advance '"' rest)
  | cons c cs ih =>
    obtain ⟨bound, rfl⟩ := Nat.exists_eq_add_one_of_ne_zero (Nat.ne_zero_of_lt hbound)
    rw [List.flatMap_cons, List.append_assoc]
    exact reads_skipTextFrom_succ (ih (by simpa using hbound))

theorem textChars_append (s : String) (rest : List Char) :
    textChars s ++ rest = '"' :: (s.toList.flatMap escapeChar ++ '"' :: rest) := by
  simp [textChars]

/-- The characters of a text are fewer than the bound that its length gives. -/
theorem length_lt_bound (s : String) (rest : List Char) :
    s.toList.length < (s.toList.flatMap escapeChar ++ '"' :: rest).length + 1 := by
  have := length_le_flatMap_escapeChar s.toList
  rw [List.length_append]
  omega

/-- **A text is read as what it is.** -/
theorem reads_text (s : String) (rest : List Char) :
    Reads text (textChars s ++ rest) (some (s, rest)) := by
  rw [textChars_append]
  refine .bind (reads_advance '"' _) ?_
  have h := reads_textFrom (length_lt_bound s rest) [] rest
  rw [List.reverse_nil, List.nil_append, String.ofList_toList] at h
  exact Reads.withLength (f := fun n => textFrom (n + 1) []) h

/-- **A text is passed over to its end.** -/
theorem reads_skipText (s : String) (rest : List Char) :
    Reads skipText (textChars s ++ rest) (some ((), rest)) := by
  rw [textChars_append]
  refine .bind (reads_advance '"' _) ?_
  exact Reads.withLength (f := fun n => skipTextFrom (n + 1))
    (reads_skipTextFrom (length_lt_bound s rest) rest)

end Vendoring.Json

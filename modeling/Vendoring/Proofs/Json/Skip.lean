import Vendoring.Proofs.Json.Value

/-!
# Passing over a value

A value that nobody asks for is passed over with a stack of the lists and objects that are open. The
stack is a program for what is left to do behind the value. So what is proved of a value says what
passing over it comes down to, whatever is open around it (`Value.Integral.skips`): a list ends by
going on with the stack as it was before its bracket. With nothing open there is nothing left to do,
so **a value is passed over to its end** (`reads_skipValue`).
-/

set_option autoImplicit false

namespace Vendoring.Json

open Reader

/-- The characters go on with what can stand behind a value, or are at their end. -/
def EndsValue (rest : List Char) : Prop := ∀ c ∈ rest.head?, c = ',' ∨ c = ']' ∨ c = '\x7d'

theorem endsValue_comma (rest : List Char) : EndsValue (',' :: rest) := by
  rintro c ⟨⟩
  exact .inl rfl

theorem endsValue_close (frame : Frame) (rest : List Char) : EndsValue (frame.close :: rest) := by
  rintro c ⟨⟩
  cases frame
  · exact .inr (.inl rfl)
  · exact .inr (.inr rfl)

theorem EndsValue.ne {rest : List Char} (h : EndsValue rest) {c : Char}
    (hc : c ≠ ',' ∧ c ≠ ']' ∧ c ≠ '\x7d') : rest.head? ≠ some c := by
  intro hhead
  rcases h c hhead with rfl | rfl | rfl
  · exact hc.1 rfl
  · exact hc.2.1 rfl
  · exact hc.2.2 rfl

/-! ## Scalars and opening brackets -/

theorem reads_skipExponentTail {rest : List Char} (hrest : EndsValue rest) :
    Reads skipExponentTail rest (some ((), rest)) := by
  cases rest with
  | nil => exact .bind reads_peek_nil (.pure () [])
  | cons c cs =>
    refine .bind (reads_peek c cs) ?_
    split
    · next h =>
      cases h
      exact absurd rfl (hrest.ne (c := 'e') (by decide))
    · next h =>
      cases h
      exact absurd rfl (hrest.ne (c := 'E') (by decide))
    · exact .pure () _

theorem reads_skipNumber (n : Nat) {rest : List Char} (hrest : EndsValue rest) :
    Reads skipNumber (Nat.toDigits 10 n ++ rest) (some ((), rest)) := by
  -- Nothing that can stand behind a value goes on with a number.
  have hstop : ∀ c ∈ rest.head?, c.isDigit = false := by
    intro c hc
    rcases hrest c hc with rfl | rfl | rfl <;> rfl
  have hdigits : Reads digits (Nat.toDigits 10 n ++ rest) (some (Nat.toDigits 10 n, rest)) :=
    reads_digits (fun _ => Decimal.isDigit_of_mem_toDigits) hstop
  refine .get_bind fun start => .bind hdigits ?_
  split
  · next h => exact absurd h Nat.toDigits_ne_nil
  · next h => exact absurd h (Decimal.toDigits_ne_zero_cons n _ _)
  · cases rest with
    | nil => exact .bind reads_peek_nil (reads_skipExponentTail hrest)
    | cons c cs =>
      refine .bind (reads_peek c cs) ?_
      split
      · next h =>
        cases h
        exact absurd rfl (hrest.ne (c := '.') (by decide))
      · exact reads_skipExponentTail hrest

theorem reads_skipHead_digit {c : Char} {cs rest : List Char} (hc : c.isDigit = true)
    (h : Reads skipNumber (c :: cs) (some ((), rest))) :
    Reads skipHead (c :: cs) (some (none, rest)) := by
  have hne (b : Char) (hb : b.isDigit = false) : some (Glyph.char c) ≠ some (Glyph.char b) := by
    rintro ⟨⟩
    rw [hc] at hb
    exact absurd hb (by decide)
  refine .bind (reads_peekSolid (isSolid_of_isDigit hc) cs) ?_
  split
  · contradiction
  · next h => exact absurd h (hne 'n' rfl)
  · next h => exact absurd h (hne 't' rfl)
  · next h => exact absurd h (hne 'f' rfl)
  · next h => exact absurd h (hne '-' rfl)
  · next h => exact absurd h (hne '"' rfl)
  · next h => exact absurd h (hne '[' rfl)
  · next h => exact absurd h (hne '\x7b' rfl)
  · next hchar =>
    cases hchar
    rw [if_pos hc]
    exact .bind h (.pure none rest)
  · next h => cases h

theorem reads_skipHead_integer (n : Int) {rest : List Char} (hrest : EndsValue rest) :
    Reads skipHead (integerChars n ++ rest) (some (none, rest)) := by
  have hnumber := reads_skipNumber n.natAbs hrest
  unfold integerChars
  split
  · refine .bind (reads_peekSolid (c := '-') (by decide) _) ?_
    exact .bind (reads_advance '-' _) (.bind hnumber (.pure none rest))
  · obtain ⟨d, ds, hdigits, hd⟩ := Decimal.toDigits_eq_cons n.natAbs
    rw [hdigits] at hnumber ⊢
    exact reads_skipHead_digit hd hnumber

theorem reads_skipHead_boolean (b : Bool) (rest : List Char) :
    Reads skipHead (booleanChars b ++ rest) (some (none, rest)) := by
  cases b with
  | false =>
    refine .bind (reads_peekSolid (c := 'f') (by decide) _) (.bind (reads_advance 'f' _) ?_)
    exact .bind (reads_word ['a', 'l', 's', 'e'] rest) (.pure none rest)
  | true =>
    refine .bind (reads_peekSolid (c := 't') (by decide) _) (.bind (reads_advance 't' _) ?_)
    exact .bind (reads_word ['r', 'u', 'e'] rest) (.pure none rest)

theorem reads_skipHead_null (rest : List Char) :
    Reads skipHead (['n', 'u', 'l', 'l'] ++ rest) (some (none, rest)) := by
  refine .bind (reads_peekSolid (c := 'n') (by decide) _) (.bind (reads_advance 'n' _) ?_)
  exact .bind (reads_word ['u', 'l', 'l'] rest) (.pure none rest)

theorem reads_skipHead_list (rest : List Char) :
    Reads skipHead ('[' :: rest) (some (some .list, rest)) :=
  .bind (reads_peekSolid (by decide) rest) (.bind (reads_advance '[' rest) (.pure _ rest))

theorem reads_skipHead_object (rest : List Char) :
    Reads skipHead ('\x7b' :: rest) (some (some .object, rest)) :=
  .bind (reads_peekSolid (by decide) rest) (.bind (reads_advance '\x7b' rest) (.pure _ rest))

theorem reads_skipHead_text (s : String) (rest : List Char) :
    Reads skipHead (textChars s ++ rest) (some (none, rest)) := by
  have htext := reads_skipText s rest
  rw [textChars_append] at htext ⊢
  exact .bind (reads_peekSolid (c := '"') (by decide) _) (.bind htext (.pure none rest))

/-! ## What is left to do -/

/-- Behind a value: what is left to do in the frames that are open. -/
def skipOn (bound : Nat) (outer : List Frame) : Reader Unit := do
  let inner ← closeFrames outer
  if inner.isEmpty then pure () else skipOpen bound inner

theorem reads_skipOn_nil (bound : Nat) (rest : List Char) :
    Reads (skipOn bound []) rest (some ((), rest)) :=
  .bind (.pure [] rest) (.pure () rest)

section Frames

variable {bound : Nat} {frame : Frame} {outer : List Frame} {cs rest : List Char}
  {result : Option (Unit × List Char)}

/-- A bracket leaves to do what was left to do before its frame was opened. -/
theorem reads_skipOn_close (h : Reads (skipOn bound outer) rest result) :
    Reads (skipOn bound (frame :: outer)) (frame.close :: rest) result := by
  have hsolid : IsSolid frame.close := by cases frame <;> decide
  rw [skipOn, closeFrames, bind_assoc]
  refine .bind (reads_peekSolid hsolid rest) ?_
  split
  · contradiction
  · next hcomma => cases frame <;> cases hcomma
  · next hclose =>
    cases hclose
    rw [if_pos rfl, bind_assoc]
    exact .bind (reads_advance _ rest) h

theorem reads_skipOn_inner {inner : List Frame} (hinner : inner ≠ [])
    (hclose : Reads (closeFrames outer) cs (some (inner, rest)))
    (h : Reads (skipOpen bound inner) rest result) : Reads (skipOn bound outer) cs result := by
  refine .bind hclose ?_
  rw [if_neg (mt List.isEmpty_iff.1 hinner)]
  exact h

/-- A comma in a list is followed by another element. -/
theorem reads_skipOn_element (h : Reads (skipOpen bound (.list :: outer)) rest result) :
    Reads (skipOn bound (.list :: outer)) (',' :: rest) result := by
  refine reads_skipOn_inner (List.cons_ne_nil _ _) ?_ h
  refine .bind (reads_peekSolid (by decide) rest) ?_
  exact .bind (reads_advance ',' rest) (.pure _ rest)

theorem reads_skipKey (key : String) (rest : List Char) :
    Reads skipKey (textChars key ++ ':' :: rest) (some ((), rest)) := by
  have htext := reads_skipText key (':' :: rest)
  rw [textChars_append] at htext ⊢
  exact .bind (reads_peekSolid (by decide) _) (.bind htext (reads_colon rest))

/-- A comma in an object is followed by another key and its value. -/
theorem reads_skipOn_member (key : String)
    (h : Reads (skipOpen bound (.object :: outer)) rest result) :
    Reads (skipOn bound (.object :: outer)) (',' :: (textChars key ++ ':' :: rest)) result := by
  refine reads_skipOn_inner (List.cons_ne_nil _ _) ?_ h
  refine .bind (reads_peekSolid (by decide) _) (.bind (reads_advance ',' _) ?_)
  exact .bind (reads_skipKey key rest) (.pure _ rest)

theorem reads_skipOpen_scalar (hhead : Reads skipHead cs (some (none, rest)))
    (h : Reads (skipOn bound outer) rest result) :
    Reads (skipOpen (bound + 1) outer) cs result :=
  .bind hhead h

/-- A frame with nothing in it. -/
theorem reads_skipOpen_empty (hhead : Reads skipHead cs (some (some frame, frame.close :: rest)))
    (h : Reads (skipOn bound outer) rest result) :
    Reads (skipOpen (bound + 1) outer) cs result := by
  have hsolid : IsSolid frame.close := by cases frame <;> decide
  refine .bind hhead ?_
  dsimp only
  rw [openFrame, bind_assoc]
  refine .bind (reads_peekSolid hsolid rest) ?_
  dsimp only
  rw [if_pos rfl, bind_assoc]
  exact .bind (reads_advance _ rest) h

/-- A frame with something in it. -/
theorem reads_skipOpen_inner {inside : List Char}
    (hhead : Reads skipHead cs (some (some frame, inside)))
    (hopen : Reads (openFrame frame outer) inside (some (frame :: outer, rest)))
    (h : Reads (skipOpen bound (frame :: outer)) rest result) :
    Reads (skipOpen (bound + 1) outer) cs result := by
  refine .bind hhead (.bind hopen ?_)
  dsimp only
  rw [if_neg (by simp)]
  exact h

theorem reads_openFrame_list {v : Value} (hv : v.Integral) (rest : List Char) :
    Reads (openFrame .list outer) (v.chars ++ rest) (some (.list :: outer, v.chars ++ rest)) := by
  obtain ⟨c, cs, hchars, hleads⟩ := hv.exists_leads
  have hclose : Glyph.char c ≠ .char Frame.list.close := by
    rintro ⟨⟩
    exact hleads.inner.1 rfl
  rw [hchars]
  refine .bind (reads_peekSolid hleads.solid _) ?_
  dsimp only
  rw [if_neg hclose]
  exact .pure _ _

theorem reads_openFrame_object (key : String) (rest : List Char) :
    Reads (openFrame .object outer) (textChars key ++ ':' :: rest)
      (some (.object :: outer, rest)) := by
  have hkey := reads_skipKey key rest
  rw [textChars_append] at hkey ⊢
  refine .bind (reads_peekSolid (by decide) _) ?_
  exact .bind hkey (.pure _ rest)

end Frames

/-! ## Values -/

/-- What is left to do in `outer` behind a value, for every bound that is large enough. -/
def SkipsOn (least : Nat) (outer : List Frame) (rest : List Char)
    (result : Option (Unit × List Char)) : Prop :=
  ∀ bound ≥ least, Reads (skipOn bound outer) rest result

/-- Passing over the value comes down to what is left to do behind it. -/
def Skips (v : Value) : Prop :=
  ∀ {least : Nat} {outer : List Frame} {rest : List Char} {result : Option (Unit × List Char)},
    EndsValue rest → SkipsOn least outer rest result →
    ∀ bound ≥ least + v.chars.length, Reads (skipOpen bound outer) (v.chars ++ rest) result

theorem skips_scalar {v : Value} (hv : v.Integral)
    (h : ∀ rest, EndsValue rest → Reads skipHead (v.chars ++ rest) (some (none, rest))) :
    Skips v := by
  intro least outer rest result hrest hon bound hbound
  have hpos := hv.length_pos
  obtain ⟨bound, rfl⟩ := Nat.exists_eq_add_one_of_ne_zero (show bound ≠ 0 by omega)
  exact reads_skipOpen_scalar (h rest hrest) (hon bound (by omega))

theorem endsValue_elementChars (vs : List Value) (rest : List Char) :
    EndsValue (elementChars false vs ++ ']' :: rest) := by
  cases vs with
  | nil => exact endsValue_close .list rest
  | cons v vs =>
    rw [elementChars_cons_append]
    exact endsValue_comma _

theorem endsValue_memberChars (ms : List (String × Value)) (rest : List Char) :
    EndsValue (memberChars false ms ++ '\x7d' :: rest) := by
  cases ms with
  | nil => exact endsValue_close .object rest
  | cons m ms =>
    rw [memberChars_cons_append]
    exact endsValue_comma _

section Inside

variable {least : Nat} {outer : List Frame} {rest : List Char} {result : Option (Unit × List Char)}

/-- Behind an element: the other elements are passed over one by one. -/
theorem skipsOn_elements {vs : List Value} (hvs : ∀ v ∈ vs, Skips v)
    (h : SkipsOn least outer rest result) :
    SkipsOn (least + (elementChars false vs).length) (.list :: outer)
      (elementChars false vs ++ ']' :: rest) result := by
  induction vs with
  | nil => exact fun bound hbound => reads_skipOn_close (h bound (by omega))
  | cons v vs ih =>
    obtain ⟨hv, hvs⟩ := List.forall_mem_cons.1 hvs
    intro bound hbound
    have hlength := length_elementChars_cons false v vs
    rw [elementChars_cons_append]
    refine reads_skipOn_element ?_
    exact hv (endsValue_elementChars vs rest) (ih hvs) bound (by omega)

/-- Behind a member: the other members are passed over one by one. -/
theorem skipsOn_members {ms : List (String × Value)} (hms : ∀ m ∈ ms, Skips m.2)
    (h : SkipsOn least outer rest result) :
    SkipsOn (least + (memberChars false ms).length) (.object :: outer)
      (memberChars false ms ++ '\x7d' :: rest) result := by
  induction ms with
  | nil => exact fun bound hbound => reads_skipOn_close (h bound (by omega))
  | cons m ms ih =>
    obtain ⟨hv, hms⟩ := List.forall_mem_cons.1 hms
    intro bound hbound
    have hlength := length_memberChars_cons false m ms
    rw [memberChars_cons_append]
    refine reads_skipOn_member m.1 ?_
    exact hv (endsValue_memberChars ms rest) (ih hms) bound (by omega)

end Inside

theorem skips_list {vs : List Value} (hvs : ∀ v ∈ vs, v.Integral) (ih : ∀ v ∈ vs, Skips v) :
    Skips (.list vs) := by
  intro least outer rest result hrest hon bound hbound
  have hlength : (Value.list vs).chars.length = (elementChars true vs).length + 2 := by
    simp [Value.chars]
  obtain ⟨bound, rfl⟩ := Nat.exists_eq_add_one_of_ne_zero (show bound ≠ 0 by omega)
  have hhead := reads_skipHead_list (elementChars true vs ++ ']' :: rest)
  rw [chars_list_append]
  cases vs with
  | nil => exact reads_skipOpen_empty hhead (hon bound (by omega))
  | cons v vs =>
    obtain ⟨hv, hvs⟩ := List.forall_mem_cons.1 hvs
    obtain ⟨ihv, ih⟩ := List.forall_mem_cons.1 ih
    -- One of the bound is used up by the bracket; what the other elements need is left behind `v`.
    have hcons := length_elementChars_cons true v vs
    rw [elementChars_cons_append] at hhead ⊢
    refine reads_skipOpen_inner hhead (reads_openFrame_list hv _) ?_
    exact ihv (endsValue_elementChars vs rest) (skipsOn_elements ih hon) bound (by omega)

theorem skips_object {ms : List (String × Value)} (ih : ∀ m ∈ ms, Skips m.2) :
    Skips (.object ms) := by
  intro least outer rest result hrest hon bound hbound
  have hlength : (Value.object ms).chars.length = (memberChars true ms).length + 2 := by
    simp [Value.chars]
  obtain ⟨bound, rfl⟩ := Nat.exists_eq_add_one_of_ne_zero (show bound ≠ 0 by omega)
  have hhead := reads_skipHead_object (memberChars true ms ++ '\x7d' :: rest)
  rw [chars_object_append]
  cases ms with
  | nil => exact reads_skipOpen_empty hhead (hon bound (by omega))
  | cons m ms =>
    obtain ⟨ihv, ih⟩ := List.forall_mem_cons.1 ih
    have hcons := length_memberChars_cons true m ms
    rw [memberChars_cons_append] at hhead ⊢
    refine reads_skipOpen_inner hhead (reads_openFrame_object m.1 _) ?_
    exact ihv (endsValue_memberChars ms rest) (skipsOn_members ih hon) bound (by omega)

/-- **Passing over a value comes down to what is left to do behind it**, whatever is open. -/
theorem Value.Integral.skips {v : Value} (h : v.Integral) : Skips v := by
  induction h with
  | null =>
    refine skips_scalar .null fun rest _ => ?_
    rw [Value.chars]
    exact reads_skipHead_null rest
  | boolean b =>
    refine skips_scalar (.boolean b) fun rest _ => ?_
    rw [Value.chars]
    exact reads_skipHead_boolean b rest
  | integer n =>
    refine skips_scalar (.integer n) fun rest hrest => ?_
    rw [Value.chars]
    exact reads_skipHead_integer n hrest
  | text s =>
    refine skips_scalar (.text s) fun rest _ => ?_
    rw [Value.chars]
    exact reads_skipHead_text s rest
  | list h ih => exact skips_list h ih
  | object _ ih => exact skips_object ih

/-- **A value is passed over to its end.** -/
theorem reads_skipValue {v : Value} (h : v.Integral) {rest : List Char} (hrest : EndsValue rest) :
    Reads skipValue (v.chars ++ rest) (some ((), rest)) := by
  have hon : SkipsOn 0 [] rest (some ((), rest)) := fun bound _ => reads_skipOn_nil bound rest
  have hbound : (v.chars ++ rest).length + 1 ≥ 0 + v.chars.length := by
    rw [List.length_append]
    omega
  exact Reads.withLength (f := fun n => skipOpen (n + 1) []) (h.skips hrest hon _ hbound)

end Vendoring.Json

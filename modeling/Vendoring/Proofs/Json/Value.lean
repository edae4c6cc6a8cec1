import Vendoring.Proofs.Decimal
import Vendoring.Proofs.Json.Text

/-!
# Values in compact form

The first character of a value in compact form is never a blank, and tells texts, `null`, lists and
objects from each other and from everything else (`exists_leads`). A reader that looks at it knows
what it has before it. So **a reader for a text, for a text or `null`, or for `null` takes a value
of that kind and refuses any other** (`reads_textValue`, `reads_optionalTextValue`,
`reads_nullValue`).

Numbers here are integers, of any size. What a number with a fraction is taken for is no question
of its form.
-/

set_option autoImplicit false

namespace Vendoring.Json

open Reader

/-- A value all of whose numbers are integers. -/
inductive Value.Integral : Value → Prop
  | null : Integral .null
  | boolean (b : Bool) : Integral (.boolean b)
  | integer (n : Int) : Integral (.integer n)
  | text (s : String) : Integral (.text s)
  | list {elements : List Value} (h : ∀ v ∈ elements, Integral v) : Integral (.list elements)
  | object {members : List (String × Value)} (h : ∀ m ∈ members, Integral m.2) :
    Integral (.object members)

/-! ## Integers -/

theorem integerChars_eq_cons (n : Int) :
    ∃ c cs, integerChars n = c :: cs ∧ (c = '-' ∨ c.isDigit = true) := by
  unfold integerChars
  split
  · exact ⟨'-', Nat.toDigits 10 n.natAbs, rfl, .inl rfl⟩
  · obtain ⟨d, ds, hdigits, hd⟩ := Decimal.toDigits_eq_cons n.natAbs
    exact ⟨d, ds, hdigits, .inr hd⟩

/-! ## First characters -/

/-- The character is the first one of the value, and says what is there. -/
structure Leads (c : Char) (v : Value) : Prop where
  solid : IsSolid c
  inner : c ≠ ']' ∧ c ≠ '\x7d'
  null : c = 'n' ↔ v = .null
  text : c = '"' ↔ ∃ s, v = .text s
  list : c = '[' ↔ ∃ elements, v = .list elements
  object : c = '\x7b' ↔ ∃ members, v = .object members

theorem isSolid_of_isDigit {c : Char} (h : c.isDigit = true) : IsSolid c := by
  unfold IsSolid isBlank
  have hne : ∀ b : Char, b.isDigit = false → (Glyph.char c == Glyph.char b) = false := by
    intro b hb
    rw [beq_eq_false_iff_ne]
    rintro ⟨⟩
    rw [h] at hb
    exact absurd hb (by decide)
  rw [hne ' ' rfl, hne '\n' rfl, hne '\t' rfl, hne '\r' rfl]
  rfl

theorem leads_integer {c : Char} {n : Int} (h : c = '-' ∨ c.isDigit = true) :
    Leads c (.integer n) := by
  have hne : ∀ b : Char, b ≠ '-' → b.isDigit = false → c ≠ b := by
    rintro b hsign hdigit rfl
    exact h.elim hsign (by simp [hdigit])
  constructor
  · rcases h with rfl | h
    · decide
    · exact isSolid_of_isDigit h
  · exact ⟨hne ']' (by decide) rfl, hne '\x7d' (by decide) rfl⟩
  · simp [hne 'n' (by decide) rfl]
  · simp [hne '"' (by decide) rfl]
  · simp [hne '[' (by decide) rfl]
  · simp [hne '\x7b' (by decide) rfl]

/-- **The first character of a value tells what it is.** -/
theorem Value.Integral.exists_leads {v : Value} (h : v.Integral) :
    ∃ c cs, v.chars = c :: cs ∧ Leads c v := by
  cases h with
  | null => exact ⟨'n', _, by rw [Value.chars],
      ⟨by decide, by decide, by simp, by simp, by simp, by simp⟩⟩
  | boolean b =>
    cases b
    · exact ⟨'f', _, by rw [Value.chars]; rfl,
      ⟨by decide, by decide, by simp, by simp, by simp, by simp⟩⟩
    · exact ⟨'t', _, by rw [Value.chars]; rfl,
      ⟨by decide, by decide, by simp, by simp, by simp, by simp⟩⟩
  | integer n =>
    obtain ⟨c, cs, hchars, hc⟩ := integerChars_eq_cons n
    exact ⟨c, cs, by rw [Value.chars, hchars], leads_integer hc⟩
  | text s => exact ⟨'"', _, by rw [Value.chars]; rfl,
      ⟨by decide, by decide, by simp, by simp, by simp, by simp⟩⟩
  | list _ => exact ⟨'[', _, by rw [Value.chars]; rfl,
      ⟨by decide, by decide, by simp, by simp, by simp, by simp⟩⟩
  | object _ => exact ⟨'\x7b', _, by rw [Value.chars]; rfl,
      ⟨by decide, by decide, by simp, by simp, by simp, by simp⟩⟩

/-! ## Elements and members -/

theorem chars_list_append (vs : List Value) (rest : List Char) :
    (Value.list vs).chars ++ rest = '[' :: (elementChars true vs ++ ']' :: rest) := by
  simp [Value.chars]

theorem chars_object_append (ms : List (String × Value)) (rest : List Char) :
    (Value.object ms).chars ++ rest = '\x7b' :: (memberChars true ms ++ '\x7d' :: rest) := by
  simp [Value.chars]

theorem elementChars_cons_append (first : Bool) (v : Value) (vs : List Value) (rest : List Char) :
    elementChars first (v :: vs) ++ rest =
      (if first then [] else [',']) ++ v.chars ++ (elementChars false vs ++ rest) := by
  rw [elementChars, List.append_assoc]

theorem memberChars_cons_append (first : Bool) (m : String × Value) (ms : List (String × Value))
    (rest : List Char) :
    memberChars first (m :: ms) ++ rest =
      (if first then [] else [',']) ++ textChars m.1 ++
        ':' :: (m.2.chars ++ (memberChars false ms ++ rest)) := by
  simp [memberChars]

theorem length_elementChars_cons (first : Bool) (v : Value) (vs : List Value) :
    v.chars.length + (elementChars false vs).length ≤ (elementChars first (v :: vs)).length := by
  rw [elementChars, List.length_append, List.length_append]
  omega

theorem length_memberChars_cons (first : Bool) (m : String × Value) (ms : List (String × Value)) :
    m.2.chars.length + (memberChars false ms).length < (memberChars first (m :: ms)).length := by
  simp only [memberChars, List.length_append, List.length_singleton]
  omega

theorem Value.Integral.length_pos {v : Value} (h : v.Integral) : 0 < v.chars.length := by
  obtain ⟨c, cs, hchars, -⟩ := h.exists_leads
  rw [hchars]
  exact Nat.succ_pos _

theorem length_le_elementChars {vs : List Value} (h : ∀ v ∈ vs, v.Integral) (first : Bool) :
    vs.length ≤ (elementChars first vs).length := by
  induction vs generalizing first with
  | nil => exact Nat.le_refl 0
  | cons v vs ih =>
    obtain ⟨hv, h⟩ := List.forall_mem_cons.1 h
    have hpos := hv.length_pos
    have hcons := length_elementChars_cons first v vs
    have hvs := ih h false
    rw [List.length_cons]
    omega

theorem length_le_memberChars (first : Bool) (ms : List (String × Value)) :
    ms.length ≤ (memberChars first ms).length := by
  induction ms generalizing first with
  | nil => exact Nat.le_refl 0
  | cons m ms ih =>
    have hcons := length_memberChars_cons first m ms
    have hms := ih false
    rw [List.length_cons]
    omega

/-! ## Values that are refused -/

theorem refuses_refuseValue {α : Type} (expected : String) :
    Refuses (refuseValue expected : Reader α) := by
  refine .bind fun next => ?_
  have hrefuse (found : Found) : Refuses (refuseValue.refuse expected found : Reader α) :=
    refuses_failHere _
  split
  · exact .bind fun _ => .bind fun _ => hrefuse _
  · exact .bind fun _ => .bind fun _ => hrefuse _
  · exact .bind fun _ => .bind fun _ => hrefuse _
  · exact .bind fun _ => .bind fun _ => hrefuse _
  · exact .bind fun _ => hrefuse _
  · exact hrefuse _
  · exact hrefuse _
  · split
    · exact .bind fun _ => hrefuse _
    · exact refuses_failNext _
  · exact refuses_failNext _

/-! ## Values that are read -/

/-- The text that a value is. -/
def Value.text? : Value → Option String
  | .text s => some s
  | _ => none

/-- The text that a value is, if it is not `null`. -/
def Value.textOrNull? : Value → Option (Option String)
  | .null => some none
  | .text s => some (some s)
  | _ => none

/-- Whether a value is `null`. -/
def Value.null? : Value → Option Unit
  | .null => some ()
  | _ => none

theorem Value.text?_eq_none {v : Value} (h : ¬ ∃ s, v = .text s) : v.text? = none := by
  cases v with
  | text s => exact absurd ⟨s, rfl⟩ h
  | _ => rfl

theorem Value.null?_eq_none {v : Value} (h : v ≠ .null) : v.null? = none := by
  cases v with
  | null => exact absurd rfl h
  | _ => rfl

theorem Value.textOrNull?_eq {v : Value} (h : v ≠ .null) : v.textOrNull? = v.text?.map some := by
  cases v with
  | null => exact absurd rfl h
  | _ => rfl

theorem reads_textValue {v : Value} (h : v.Integral) (rest : List Char) :
    Reads textValue (v.chars ++ rest) (v.text?.map fun s => (s, rest)) := by
  obtain ⟨c, cs, hchars, hleads⟩ := h.exists_leads
  by_cases htext : ∃ s, v = .text s
  · obtain ⟨s, rfl⟩ := htext
    rw [Value.chars]
    exact .bind (reads_peekSolid (by decide) _) (reads_text s rest)
  · rw [Value.text?_eq_none htext, hchars]
    refine .bind (reads_peekSolid hleads.solid _) ?_
    split
    · contradiction
    · next hquote =>
      cases hquote
      exact absurd (hleads.text.1 rfl) htext
    · exact (refuses_refuseValue _).reads _

theorem reads_optionalTextValue {v : Value} (h : v.Integral) (rest : List Char) :
    Reads optionalTextValue (v.chars ++ rest) (v.textOrNull?.map fun s? => (s?, rest)) := by
  obtain ⟨c, cs, hchars, hleads⟩ := h.exists_leads
  by_cases hnull : v = .null
  · subst hnull
    rw [Value.chars]
    refine .bind (reads_peekSolid (by decide) _) (.bind (reads_advance 'n' _) ?_)
    exact .bind (reads_word ['u', 'l', 'l'] rest) (.pure none rest)
  · have htext := (reads_textValue h rest).map (g := some)
    rw [hchars] at htext
    rw [Value.textOrNull?_eq hnull, hchars]
    refine .bind (reads_peekSolid hleads.solid _) ?_
    split
    · next hn =>
      cases hn
      exact absurd (hleads.null.1 rfl) hnull
    · exact htext

theorem reads_nullValue {v : Value} (h : v.Integral) (rest : List Char) :
    Reads nullValue (v.chars ++ rest) (v.null?.map fun u => (u, rest)) := by
  obtain ⟨c, cs, hchars, hleads⟩ := h.exists_leads
  by_cases hnull : v = .null
  · subst hnull
    rw [Value.chars]
    refine .bind (reads_peekSolid (by decide) _) (.bind (reads_advance 'n' _) ?_)
    exact reads_word ['u', 'l', 'l'] rest
  · rw [Value.null?_eq_none hnull, hchars]
    refine .bind (reads_peekSolid hleads.solid _) ?_
    split
    · contradiction
    · next hn =>
      cases hn
      exact absurd (hleads.null.1 rfl) hnull
    · exact (refuses_refuseValue _).reads _

/-! ## The frame of lists and objects -/

/-- At its bracket a list has no other element, and an object no other member. -/
theorem reads_hasElement_close (first : Bool) (rest : List Char) :
    Reads (hasElement first) (']' :: rest) (some (false, ']' :: rest)) :=
  .bind (reads_peekSolid (by decide) rest) (.pure false _)

theorem reads_hasMember_close (first : Bool) (rest : List Char) :
    Reads (hasMember first) ('\x7d' :: rest) (some (false, '\x7d' :: rest)) :=
  .bind (reads_peekSolid (by decide) rest) (.pure false _)

/-- **The next element of a list is found**, behind a comma unless it is the first. -/
theorem reads_hasElement {v : Value} (h : v.Integral) (first : Bool) (rest : List Char) :
    Reads (hasElement first) ((if first then [] else [',']) ++ v.chars ++ rest)
      (some (true, v.chars ++ rest)) := by
  obtain ⟨c, cs, hchars, hleads⟩ := h.exists_leads
  rw [hchars]
  cases first with
  | true =>
    refine .bind (reads_peekSolid hleads.solid _) ?_
    split
    · contradiction
    · next hclose =>
      cases hclose
      exact absurd rfl hleads.inner.1
    · exact .pure true _
  | false =>
    refine .bind (reads_peekSolid (c := ',') (by decide) _) ?_
    refine .bind (reads_advance ',' _) (.bind (reads_peekSolid hleads.solid _) ?_)
    split
    · contradiction
    · next hclose =>
      cases hclose
      exact absurd rfl hleads.inner.1
    · exact .pure true _

/-- **The next member of an object is found**, behind a comma unless it is the first. -/
theorem reads_hasMember (key : String) (first : Bool) (rest : List Char) :
    Reads (hasMember first) ((if first then [] else [',']) ++ textChars key ++ rest)
      (some (true, textChars key ++ rest)) := by
  rw [List.append_assoc, textChars_append]
  cases first with
  | true => exact .bind (reads_peekSolid (c := '"') (by decide) _) (.pure true _)
  | false =>
    refine .bind (reads_peekSolid (c := ',') (by decide) _) (.bind (reads_advance ',' _) ?_)
    exact .bind (reads_peekSolid (c := '"') (by decide) _) (.pure true _)

theorem reads_colon (rest : List Char) : Reads colon (':' :: rest) (some ((), rest)) :=
  .bind (reads_peekSolid (by decide) rest) (reads_advance ':' rest)

end Vendoring.Json

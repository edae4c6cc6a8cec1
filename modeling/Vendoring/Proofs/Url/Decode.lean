import Mathlib.Data.List.Flatten
import Mathlib.Data.List.TakeWhile
import Vendoring.Proofs.Url.Form
import Vendoring.Url.Path

/-!
# What a path stands for

To undo the percent-encoding of a text gives its own bytes exactly if no byte stands in it already,
and fewer of them otherwise (`percentDecode_cases`). The encoding that a path gets when it is read
changes nothing about that (`percentDecode_percentEncode`).

Reading the segments of a path takes those away that are made of dots, and with each of them at
least one byte of what the path stands for (`addSegments_cases`). So **a path stands for no more
bytes than the text that it is read from has, and for as many only if nothing in the text has a
meaning of its own**.
-/

set_option autoImplicit false

namespace Vendoring.Url

/-! ## Bytes of a text -/

/-- The bytes of a text. -/
def utf8 (cs : List Char) : List UInt8 := cs.flatMap String.utf8EncodeChar

theorem utf8_cons (c : Char) (cs : List Char) :
    utf8 (c :: cs) = String.utf8EncodeChar c ++ utf8 cs :=
  List.flatMap_cons

theorem utf8_append (cs more : List Char) : utf8 (cs ++ more) = utf8 cs ++ utf8 more :=
  List.flatMap_append

theorem utf8_injective {cs ds : List Char} (h : utf8 cs = utf8 ds) : cs = ds :=
  Option.some.inj <| by rw [← textOfBytes?_utf8, ← textOfBytes?_utf8, ← utf8, ← utf8, h]

theorem length_utf8EncodeChar_pos (c : Char) : 0 < (String.utf8EncodeChar c).length := by
  rw [String.length_utf8EncodeChar]
  exact c.utf8Size_pos

theorem length_utf8_le {cs ds : List Char} (h : cs.Sublist ds) :
    (utf8 cs).length ≤ (utf8 ds).length :=
  (h.flatMap String.utf8EncodeChar).length_le

/-- What is left out of a text is missing from its bytes. -/
theorem eq_of_length_utf8 {cs ds : List Char} (h : cs.Sublist ds)
    (hlength : (utf8 ds).length ≤ (utf8 cs).length) : cs = ds := by
  induction h with
  | slnil => rfl
  | @cons cs ds d h ih =>
    have hle := length_utf8_le h
    have hpos := length_utf8EncodeChar_pos d
    rw [utf8_cons, List.length_append] at hlength
    omega
  | @cons_cons cs ds c h ih =>
    rw [utf8_cons, utf8_cons, List.length_append, List.length_append] at hlength
    rw [ih (by omega)]

/-! ## How a text goes on -/

/-- Two hexadecimal digits stand in front. -/
def startsWithByte : List Char → Bool
  | a :: b :: _ => (hexValue? a).isSome && (hexValue? b).isSome
  | _ => false

/-- A percent sign with two hexadecimal digits stands somewhere in the text. -/
def HoldsByte (cs : List Char) : Prop :=
  ∃ a b, (hexValue? a).isSome = true ∧ (hexValue? b).isSome = true ∧ ['%', a, b] <:+: cs

/-- A text goes on with a byte, with a percent sign that starts none, or with another character. -/
@[elab_as_elim]
theorem byteInduction {motive : List Char → Prop} (nil : motive [])
    (byte : ∀ a b cs, startsWithByte (a :: b :: cs) = true → motive cs →
      motive ('%' :: a :: b :: cs))
    (percent : ∀ cs, startsWithByte cs = false → motive cs → motive ('%' :: cs))
    (plain : ∀ c cs, c ≠ '%' → motive cs → motive (c :: cs)) (cs : List Char) : motive cs := by
  induction hn : cs.length using Nat.strongRecOn generalizing cs with
  | ind n ih =>
    subst hn
    cases cs with
    | nil => exact nil
    | cons c cs =>
      by_cases hc : c = '%'
      · subst hc
        cases hbyte : startsWithByte cs with
        | false => exact percent cs hbyte (ih _ (Nat.lt_succ_self _) cs rfl)
        | true =>
          match cs, hbyte with
          | a :: b :: rest, hbyte => exact byte a b rest hbyte (ih _ (by simp; omega) rest rfl)
      · exact plain c cs hc (ih _ (Nat.lt_succ_self _) cs rfl)

theorem percentDecode_byte {a b : Char} {cs : List Char}
    (h : startsWithByte (a :: b :: cs) = true) :
    ∃ x : UInt8, ∀ rest, percentDecode ('%' :: a :: b :: rest) = x :: percentDecode rest := by
  rw [startsWithByte, Bool.and_eq_true, Option.isSome_iff_exists, Option.isSome_iff_exists] at h
  obtain ⟨⟨x, hx⟩, ⟨y, hy⟩⟩ := h
  exact ⟨_, fun rest => by rw [percentDecode, hx, hy]⟩

theorem percentDecode_percent {cs : List Char} (h : startsWithByte cs = false) :
    percentDecode ('%' :: cs) = 0x25 :: percentDecode cs := by
  match cs with
  | [] => rfl
  | [a] => rfl
  | a :: b :: rest =>
    rw [percentDecode]
    split
    · next x y hx hy => simp [startsWithByte, hx, hy] at h
    · rfl

/-- **Undoing percent-encoding leaves a text as it is, or makes it shorter.** -/
theorem percentDecode_cases (cs : List Char) :
    (¬ HoldsByte cs ∧ percentDecode cs = utf8 cs) ∨
      (HoldsByte cs ∧ (percentDecode cs).length < (utf8 cs).length) := by
  have hcons (c : Char) (cs : List Char) (h : c = '%' → startsWithByte cs = false) :
      HoldsByte (c :: cs) ↔ HoldsByte cs := by
    constructor
    · rintro ⟨a, b, ha, hb, hwithin⟩
      rcases List.infix_cons_iff.1 hwithin with ⟨rest, hrest⟩ | hwithin
      · obtain ⟨rfl, rfl⟩ := List.cons.inj hrest
        simpa [startsWithByte, ha, hb] using h rfl
      · exact ⟨a, b, ha, hb, hwithin⟩
    · rintro ⟨a, b, ha, hb, hwithin⟩
      exact ⟨a, b, ha, hb, hwithin.trans (List.suffix_cons c cs).isInfix⟩
  induction cs using byteInduction with
  | nil => exact .inl ⟨by rintro ⟨a, b, -, -, h⟩; simp at h, rfl⟩
  | byte a b cs hbyte ih =>
    have hle : (percentDecode cs).length ≤ (utf8 cs).length :=
      ih.elim (fun h => by rw [h.2]) fun h => h.2.le
    obtain ⟨x, hx⟩ := percentDecode_byte hbyte
    have ha := length_utf8EncodeChar_pos a
    have hpercent := length_utf8EncodeChar_pos '%'
    rw [startsWithByte, Bool.and_eq_true] at hbyte
    refine .inr ⟨⟨a, b, hbyte.1, hbyte.2, (List.prefix_append ['%', a, b] cs).isInfix⟩, ?_⟩
    rw [hx, utf8_cons, utf8_cons, utf8_cons]
    simp only [List.length_cons, List.length_append]
    omega
  | percent cs hbyte ih =>
    have hutf8 : utf8 ('%' :: cs) = 0x25 :: utf8 cs := rfl
    rw [hcons '%' cs fun _ => hbyte, percentDecode_percent hbyte, hutf8]
    simpa using ih
  | plain c cs hc ih =>
    rw [hcons c cs fun h => absurd h hc, percentDecode_cons hc, utf8_cons]
    simpa using ih

theorem length_percentDecode_le (cs : List Char) : (percentDecode cs).length ≤ (utf8 cs).length :=
  (percentDecode_cases cs).elim (fun h => by rw [h.2]) fun h => h.2.le

theorem percentDecode_of_not_holdsByte {cs : List Char} (h : ¬ HoldsByte cs) :
    percentDecode cs = utf8 cs :=
  (percentDecode_cases cs).elim (·.2) fun hnot => absurd hnot.1 h

/-! ## What is encoded already -/

/-- What holds of an ASCII character can be seen value by value. -/
theorem forall_ascii {P : Char → Prop} (h : ∀ n < 128, P (Char.ofNat n)) {c : Char}
    (hc : c.toNat < 128) : P c := by
  have hvalue := h c.toNat hc
  rwa [Char.ofNat_toNat] at hvalue

theorem toNat_lt_of_hexValue? {c : Char} (h : (hexValue? c).isSome = true) : c.toNat < 128 := by
  unfold hexValue? at h
  by_contra hlarge
  have hdigit : c.isDigit = false := by
    rw [Char.isDigit, Bool.and_eq_false_iff]
    right
    exact decide_eq_false fun hle => hlarge (by have : c.toNat ≤ 57 := hle; omega)
  have hsmall : ¬ c ≤ 'f' := fun hle => hlarge (by have : c.toNat ≤ 102 := hle; omega)
  have hcapital : ¬ c ≤ 'F' := fun hle => hlarge (by have : c.toNat ≤ 70 := hle; omega)
  simp [hdigit, hsmall, hcapital] at h

theorem escapedInPath_of_hexValue? {c : Char} (h : (hexValue? c).isSome = true) :
    escapedInPath c = false :=
  forall_ascii (P := fun c => (hexValue? c).isSome = true → escapedInPath c = false) (by decide)
    (toNat_lt_of_hexValue? h) h

/-- A character in a path. -/
def pathChar (c : Char) : List Char := if escapedInPath c then percentChar c else [c]

theorem percentEncode_cons (c : Char) (cs : List Char) :
    percentEncode escapedInPath (c :: cs) = pathChar c ++ percentEncode escapedInPath cs :=
  List.flatMap_cons

/-- A character is written as itself or begins with a percent sign. -/
theorem pathChar_cases (c : Char) :
    pathChar c = [c] ∨ hexValue? c = none ∧ ∃ rest, pathChar c = '%' :: rest := by
  unfold pathChar
  split
  · next hescaped =>
    right
    constructor
    · by_contra hhex
      rw [escapedInPath_of_hexValue? (Option.isSome_iff_ne_none.2 hhex)] at hescaped
      cases hescaped
    · obtain ⟨b, bytes, hbytes⟩ :=
        List.exists_cons_of_length_pos (length_utf8EncodeChar_pos c)
      exact ⟨_, by rw [percentChar, hbytes]; rfl⟩
  · exact .inl rfl

/-- Encoding a path brings no hexadecimal digits to its front. -/
theorem startsWithByte_percentEncode (cs : List Char) :
    startsWithByte (percentEncode escapedInPath cs) = startsWithByte cs := by
  have hpercent : hexValue? '%' = none := rfl
  have hfirst (a : Char) (rest more : List Char) (ha : hexValue? a = none) :
      startsWithByte ('%' :: rest) = startsWithByte (a :: more) := by
    cases rest <;> cases more <;> simp [startsWithByte, ha, hpercent]
  match cs with
  | [] => rfl
  | [a] =>
    rcases pathChar_cases a with ha | ⟨ha, rest, hrest⟩
    · rw [percentEncode_cons, ha]
      rfl
    · rw [percentEncode_cons, hrest]
      exact hfirst a _ _ ha
  | a :: b :: more =>
    rcases pathChar_cases a with ha | ⟨ha, rest, hrest⟩
    · rw [percentEncode_cons, percentEncode_cons, ha]
      rcases pathChar_cases b with hb | ⟨hb, rest, hrest⟩
      · rw [hb]
        rfl
      · rw [hrest]
        simp [startsWithByte, hb, hpercent]
    · rw [percentEncode_cons, hrest]
      exact hfirst a _ _ ha

/-- **What a path encodes, it stands for as before.** -/
theorem percentDecode_percentEncode (cs : List Char) :
    percentDecode (percentEncode escapedInPath cs) = percentDecode cs := by
  have hpercent : pathChar '%' = ['%'] := rfl
  induction cs using byteInduction with
  | nil => rfl
  | byte a b cs hbyte ih =>
    obtain ⟨x, hx⟩ := percentDecode_byte hbyte
    rw [startsWithByte, Bool.and_eq_true] at hbyte
    have ha : pathChar a = [a] := if_neg (by simp [escapedInPath_of_hexValue? hbyte.1])
    have hb : pathChar b = [b] := if_neg (by simp [escapedInPath_of_hexValue? hbyte.2])
    rw [percentEncode_cons, percentEncode_cons, percentEncode_cons, hpercent, ha, hb, hx, ← ih]
    exact hx _
  | percent cs hbyte ih =>
    have hstill : startsWithByte (percentEncode escapedInPath cs) = false := by
      rwa [startsWithByte_percentEncode]
    rw [percentEncode_cons, hpercent, percentDecode_percent hbyte, ← ih]
    exact percentDecode_percent hstill
  | plain c cs hc ih =>
    rw [percentEncode_cons, percentDecode_cons hc, ← ih, pathChar]
    split
    · exact percentDecode_flatMap_percentByte _ _
    · exact percentDecode_cons hc _

/-! ## Segments -/

/-- A slash belongs to no byte, so what is in front of it and behind it can be read apart. -/
theorem percentDecode_append_slash (cs rest : List Char) :
    percentDecode (cs ++ '/' :: rest) = percentDecode cs ++ 0x2F :: percentDecode rest := by
  have hslash : hexValue? '/' = none := rfl
  induction cs using byteInduction with
  | nil => exact percentDecode_cons (by decide) rest
  | byte a b cs hbyte ih =>
    obtain ⟨x, hx⟩ := percentDecode_byte hbyte
    refine (hx (cs ++ '/' :: rest)).trans ?_
    rw [ih, hx]
    rfl
  | percent cs hbyte ih =>
    have hstill : startsWithByte (cs ++ '/' :: rest) = false := by
      match cs, hbyte with
      | [], _ => cases rest <;> simp [startsWithByte, hslash]
      | [a], _ => simp [startsWithByte, hslash]
      | a :: b :: cs, hbyte => exact hbyte
    rw [List.cons_append, percentDecode_percent hstill, percentDecode_percent hbyte, ih]
    rfl
  | plain c cs hc ih =>
    rw [List.cons_append, percentDecode_cons hc, percentDecode_cons hc, ih, List.append_assoc]

theorem pathChars_append (segments more : List (List Char)) :
    pathChars (segments ++ more) = pathChars segments ++ pathChars more :=
  List.flatMap_append

theorem percentDecode_pathChars_append (segments more : List (List Char)) :
    percentDecode (pathChars (segments ++ more)) =
      percentDecode (pathChars segments) ++ percentDecode (pathChars more) := by
  rw [pathChars_append]
  cases more with
  | nil => simp [pathChars, percentDecode]
  | cons segment more =>
    have hcons : pathChars (segment :: more) = '/' :: (segment ++ pathChars more) := rfl
    rw [hcons, percentDecode_append_slash, percentDecode_cons (by decide)]
    rfl

/-- The segment is made of dots, as a name that has a meaning of its own. -/
def isDots (segment : List Char) : Bool := isSame segment || isParent segment

theorem percentDecode_of_stripDot? {segment rest : List Char} (h : stripDot? segment = some rest) :
    percentDecode segment = 0x2E :: percentDecode rest := by
  unfold stripDot? at h
  split at h <;> cases h <;> rfl

theorem percentDecode_of_isSame {segment : List Char} (h : isSame segment = true) :
    percentDecode segment = utf8 ['.'] :=
  percentDecode_of_stripDot? (eq_of_beq h)

theorem percentDecode_of_isParent {segment : List Char} (h : isParent segment = true) :
    percentDecode segment = utf8 ['.', '.'] := by
  obtain ⟨rest, hrest, hlast⟩ := Option.bind_eq_some_iff.1 (eq_of_beq h)
  rw [percentDecode_of_stripDot? hrest, percentDecode_of_stripDot? hlast]
  rfl

/-- How many bytes a path of these segments stands for. -/
def weight (segments : List (List Char)) : Nat := (percentDecode (pathChars segments)).length

theorem weight_append (segments more : List (List Char)) :
    weight (segments ++ more) = weight segments + weight more := by
  rw [weight, percentDecode_pathChars_append, List.length_append]
  rfl

theorem weight_singleton (segment : List Char) :
    weight [segment] = (percentDecode segment).length + 1 := by
  have hpath : pathChars [segment] = [] ++ '/' :: segment := by simp [pathChars]
  rw [weight, hpath, percentDecode_append_slash]
  simp [percentDecode]

theorem weight_withoutLast_le (segments : List (List Char)) :
    weight (withoutLast segments) ≤ weight segments := by
  obtain ⟨rest, hrest⟩ : withoutLast segments <+: segments := by
    unfold withoutLast
    split
    · exact List.prefix_rfl
    · exact List.dropLast_prefix segments
  have happend := weight_append (withoutLast segments) rest
  rw [hrest] at happend
  omega

/-- **A segment of dots is taken away**, and with it at least one byte. -/
theorem addSegment_cases (segments : List (List Char)) (segment : List Char) (last : Bool) :
    (isDots segment = false ∧ addSegment segments segment last = segments ++ [segment]) ∨
      (isDots segment = true ∧
        weight (addSegment segments segment last) < weight segments + weight [segment]) := by
  have hending : weight (if last then [[]] else []) ≤ 1 := by cases last <;> decide
  unfold addSegment
  dsimp only
  by_cases hparent : isParent segment = true
  · have hlength : (percentDecode segment).length = 2 := by
      rw [percentDecode_of_isParent hparent]
      rfl
    have hle := weight_withoutLast_le segments
    refine .inr ⟨by simp [isDots, hparent], ?_⟩
    rw [if_pos hparent, weight_append, weight_singleton, hlength]
    omega
  · by_cases hsame : isSame segment = true
    · have hlength : (percentDecode segment).length = 1 := by
        rw [percentDecode_of_isSame hsame]
        rfl
      refine .inr ⟨by simp [isDots, hsame], ?_⟩
      rw [if_neg hparent, if_pos hsame, weight_append, weight_singleton, hlength]
      omega
    · rw [if_neg hparent, if_neg hsame]
      exact .inl ⟨by simp [isDots, hparent, hsame], rfl⟩

/-- **Segments are put behind those that are there, or some of them are made of dots** and the path
stands for fewer bytes than they do. -/
theorem addSegments_cases (segments more : List (List Char)) :
    ((∀ segment ∈ more, isDots segment = false) ∧ addSegments segments more = segments ++ more) ∨
      ((∃ segment ∈ more, isDots segment = true) ∧
        weight (addSegments segments more) < weight segments + weight more) := by
  induction more generalizing segments with
  | nil => exact .inl ⟨fun _ h => absurd h List.not_mem_nil, (List.append_nil _).symm⟩
  | cons segment more ih =>
    have hcons : weight (segment :: more) = weight [segment] + weight more :=
      weight_append [segment] more
    rw [addSegments, hcons]
    rcases addSegment_cases segments segment more.isEmpty with ⟨hdots, hadd⟩ | ⟨hdots, hlt⟩
    · rw [hadd]
      rcases ih (segments ++ [segment]) with ⟨hall, heq⟩ | ⟨⟨s, hs, hsdots⟩, hlt⟩
      · refine .inl ⟨List.forall_mem_cons.2 ⟨hdots, hall⟩, ?_⟩
        rw [heq, List.append_assoc, List.singleton_append]
      · refine .inr ⟨⟨s, List.mem_cons_of_mem _ hs, hsdots⟩, ?_⟩
        rw [weight_append] at hlt
        omega
    · refine .inr ⟨⟨segment, List.mem_cons_self, hdots⟩, ?_⟩
      rcases ih (addSegment segments segment more.isEmpty) with ⟨-, heq⟩ | ⟨-, hmore⟩
      · rw [heq, weight_append]
        omega
      · omega

end Vendoring.Url

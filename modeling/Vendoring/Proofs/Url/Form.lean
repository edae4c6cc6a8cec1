import Vendoring.Url.Host

/-!
# Queries of forms

What a text becomes in the query of a form is made of few characters (`formText_formEncode`), and
**reading it as a form gives the text back** (`formDecode?_formEncode`). Both hold of one byte, then
of one character, then of a text.

A plus sign in the text is written as a byte, so undoing the plus signs first, and the percent signs
after them, mistakes nothing.
-/

set_option autoImplicit false

namespace Vendoring.Url

/-! ## Bytes -/

theorem hexValue?_hexDigit : ∀ {n : Nat}, n < 16 → hexValue? (hexDigit n) = some n := by
  decide

theorem hexDigit_ne_plus : ∀ {n : Nat}, n < 16 → hexDigit n ≠ '+' := by
  decide

theorem toNat_div_lt (b : UInt8) : b.toNat / 16 < 16 := by
  have := b.toNat_lt
  omega

theorem percentDecode_percentByte (b : UInt8) (rest : List Char) :
    percentDecode (percentByte b ++ rest) = b :: percentDecode rest := by
  have hhigh := hexValue?_hexDigit (toNat_div_lt b)
  have hlow := hexValue?_hexDigit (n := b.toNat % 16) (by omega)
  have hbyte : (b.toNat / 16 * 16 + b.toNat % 16).toUInt8 = b := by
    rw [Nat.div_add_mod']
    exact UInt8.ofNat_toNat
  simp only [percentByte, List.cons_append, List.nil_append, percentDecode, hhigh, hlow, hbyte]

theorem percentDecode_flatMap_percentByte (bytes : List UInt8) (rest : List Char) :
    percentDecode (bytes.flatMap percentByte ++ rest) = bytes ++ percentDecode rest := by
  induction bytes with
  | nil => rfl
  | cons b bytes ih =>
    rw [List.flatMap_cons, List.append_assoc, percentDecode_percentByte, ih, List.cons_append]

/-- The text that is read back from bytes is the one that they are the UTF-8 form of. -/
theorem textOfBytes?_utf8 (cs : List Char) :
    textOfBytes? (cs.flatMap String.utf8EncodeChar) = some cs := by
  have hbytes : (cs.flatMap String.utf8EncodeChar).toByteArray = (String.ofList cs).toByteArray :=
    String.toByteArray_ofList.symm
  rw [textOfBytes?, hbytes, String.fromUTF8?, dif_pos (String.isValidUTF8 _), Option.map_some]
  exact congrArg some String.toList_ofList

/-! ## Reading a form -/

/-- The characters with plus signs as the spaces they stand for. -/
def plusAsSpace (cs : List Char) : List Char := cs.map fun c => if c = '+' then ' ' else c

/-- The text that an encoded text in the query of a form stands for. -/
def formDecode? (cs : List Char) : Option (List Char) :=
  textOfBytes? (percentDecode (plusAsSpace cs))

/-- A character in the query of a form. -/
def formChar (c : Char) : List Char :=
  if plainInForm c then [c] else if c = ' ' then ['+'] else percentChar c

theorem plusAsSpace_append (as bs : List Char) :
    plusAsSpace (as ++ bs) = plusAsSpace as ++ plusAsSpace bs := List.map_append

theorem plusAsSpace_percentByte (b : UInt8) : plusAsSpace (percentByte b) = percentByte b := by
  simp only [plusAsSpace, percentByte, List.map_cons, List.map_nil,
    if_neg (hexDigit_ne_plus (toNat_div_lt b)),
    if_neg (hexDigit_ne_plus (n := b.toNat % 16) (by omega))]
  rfl

theorem plusAsSpace_flatMap_percentByte (bytes : List UInt8) :
    plusAsSpace (bytes.flatMap percentByte) = bytes.flatMap percentByte := by
  induction bytes with
  | nil => rfl
  | cons b bytes ih => rw [List.flatMap_cons, plusAsSpace_append, plusAsSpace_percentByte, ih]

/-- A character that stands for itself is none of those that have a meaning when a form is read. -/
theorem plainInForm_ne {c : Char} (h : plainInForm c = true) : c ≠ '+' ∧ c ≠ '%' :=
  ⟨fun hc => by rw [hc] at h; exact absurd h (by decide),
    fun hc => by rw [hc] at h; exact absurd h (by decide)⟩

theorem percentDecode_cons {c : Char} (h : c ≠ '%') (rest : List Char) :
    percentDecode (c :: rest) = String.utf8EncodeChar c ++ percentDecode rest := by
  rw [percentDecode]
  rintro a b rest' rfl
  contradiction

/-- **What stands for a character is read as its bytes.** -/
theorem percentDecode_formChar (c : Char) (rest : List Char) :
    percentDecode (plusAsSpace (formChar c) ++ rest) =
      String.utf8EncodeChar c ++ percentDecode rest := by
  rw [formChar]
  split
  · next hplain =>
    obtain ⟨hplus, hpercent⟩ := plainInForm_ne hplain
    have hself : plusAsSpace [c] = [c] := by simp [plusAsSpace, hplus]
    rw [hself]
    exact percentDecode_cons hpercent rest
  · split
    · next hspace =>
      rw [hspace]
      exact percentDecode_cons (by decide) rest
    · rw [percentChar, plusAsSpace_flatMap_percentByte, percentDecode_flatMap_percentByte]

theorem percentDecode_formEncode (cs : List Char) :
    percentDecode (plusAsSpace (formEncode cs)) = cs.flatMap String.utf8EncodeChar := by
  induction cs with
  | nil => rfl
  | cons c cs ih =>
    show percentDecode (plusAsSpace (formChar c ++ formEncode cs)) = _
    rw [plusAsSpace_append, percentDecode_formChar, ih, List.flatMap_cons]

/-- **A text is read back from the query of a form.** -/
theorem formDecode?_formEncode (cs : List Char) : formDecode? (formEncode cs) = some cs := by
  rw [formDecode?, percentDecode_formEncode, textOfBytes?_utf8]

/-! ## What stands in a form -/

/-- Characters that stand for themselves, plus signs, and bytes in two hexadecimal digits. -/
inductive FormText : List Char → Prop
  | nil : FormText []
  | plain {c : Char} {cs : List Char} (hc : plainInForm c = true) (hcs : FormText cs) :
    FormText (c :: cs)
  | space {cs : List Char} (hcs : FormText cs) : FormText ('+' :: cs)
  | byte {high low : Char} {cs : List Char} (hhigh : (hexValue? high).isSome)
    (hlow : (hexValue? low).isSome) (hcs : FormText cs) : FormText ('%' :: high :: low :: cs)

namespace FormText

theorem append {as bs : List Char} (has : FormText as) (hbs : FormText bs) :
    FormText (as ++ bs) := by
  induction has with
  | nil => exact hbs
  | plain hc _ ih => exact ih.plain hc
  | space _ ih => exact ih.space
  | byte hhigh hlow _ ih => exact ih.byte hhigh hlow

theorem percentByte (b : UInt8) : FormText (percentByte b) := by
  have hlow : b.toNat % 16 < 16 := by omega
  refine .byte ?_ ?_ .nil
  · rw [hexValue?_hexDigit (toNat_div_lt b), Option.isSome_some]
  · rw [hexValue?_hexDigit hlow, Option.isSome_some]

theorem percentChar (c : Char) : FormText (percentChar c) := by
  rw [Url.percentChar]
  induction String.utf8EncodeChar c with
  | nil => exact .nil
  | cons b bytes ih => exact (percentByte b).append ih

theorem formChar (c : Char) : FormText (formChar c) := by
  rw [Url.formChar]
  split
  · next hplain => exact .plain hplain .nil
  · split
    · exact .space .nil
    · exact percentChar c

end FormText

/-- **In the query of a form stand letters, digits, few signs, plus signs and bytes.** -/
theorem formText_formEncode (cs : List Char) : FormText (formEncode cs) := by
  induction cs with
  | nil => exact .nil
  | cons c cs ih => exact (FormText.formChar c).append ih

end Vendoring.Url

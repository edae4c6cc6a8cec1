import Vendoring.Proofs.Url.Plain

/-!
# Texts that stand for themselves in a path

A text that is put into an address as it is can mean something else there: a mark ends the path, a
blank at the end is dropped, a backslash becomes a slash, a percent sign with two digits becomes a
byte, and segments of dots lead elsewhere. **The path stands for the text exactly if none of that
happens** (`percentDecode_path_iff`).

That nothing else can make up for it is seen by counting. Each of these but the backslash makes the
path stand for fewer bytes than the text has, and none of them for more.
-/

set_option autoImplicit false

namespace Vendoring.Url

/-- A text that stands for itself as the end of a path. -/
structure StandsForItself (cs : List Char) : Prop where
  whole : StaysWhole cs
  slashes : '\\' ∉ cs
  bytes : ¬ HoldsByte cs
  dots : ['.'] ∉ cs.splitOn '/' ∧ ['.', '.'] ∉ cs.splitOn '/'

/-! ## Slashes -/

/-- The characters with every separator as a slash. -/
def slashed (kind : SchemeKind) (cs : List Char) : List Char :=
  cs.map fun c => if kind.isSlash c then '/' else c

theorem pathChars_splitSegments (kind : SchemeKind) (cs : List Char) :
    pathChars (splitSegments kind cs) = '/' :: slashed kind cs := by
  induction cs with
  | nil => rfl
  | cons c cs ih =>
    rw [splitSegments, List.splitOnP_cons_eq_if_modifyHead, slashed, List.map_cons]
    by_cases hc : kind.isSlash c = true
    · rw [if_pos hc, if_pos hc]
      exact congrArg ('/' :: ·) ih
    · rw [if_neg hc, if_neg hc]
      obtain ⟨first, rest, hsplit⟩ :=
        List.exists_cons_of_ne_nil (List.splitOnP_ne_nil kind.isSlash cs)
      rw [splitSegments, hsplit] at ih
      rw [hsplit, List.modifyHead_cons]
      exact congrArg ('/' :: c :: ·) (List.cons.inj ih).2

theorem length_utf8_slashed (kind : SchemeKind) (cs : List Char) :
    (utf8 (slashed kind cs)).length = (utf8 cs).length := by
  have hslash {c : Char} (h : kind.isSlash c = true) :
      (String.utf8EncodeChar c).length = (String.utf8EncodeChar '/').length := by
    simp only [SchemeKind.isSlash, Bool.or_eq_true, Bool.and_eq_true, decide_eq_true_eq] at h
    rcases h with rfl | ⟨-, rfl⟩ <;> rfl
  induction cs with
  | nil => rfl
  | cons c cs ih =>
    rw [slashed, List.map_cons, utf8_cons, utf8_cons, List.length_append, List.length_append]
    rw [slashed] at ih
    rw [ih]
    split
    · next h => rw [hslash h]
    · rfl

theorem slashed_eq_self_iff {defaultPort : Nat} {cs : List Char} :
    slashed (.web defaultPort) cs = cs ↔ '\\' ∉ cs := by
  have hmap : cs.map (fun c => if (SchemeKind.web defaultPort).isSlash c then '/' else c) = cs ↔
      ∀ c ∈ cs, (if (SchemeKind.web defaultPort).isSlash c then '/' else c) = id c := by
    rw [← List.map_inj_left, List.map_id]
  rw [slashed, hmap]
  constructor
  · intro h hmem
    exact absurd (h _ hmem) (by simp [SchemeKind.isSlash, SchemeKind.isSpecial])
  · intro h c hc
    have hne : c ≠ '\\' := fun heq => h (heq ▸ hc)
    by_cases hslash : c = '/' <;> simp [SchemeKind.isSlash, hne, hslash]

theorem splitSegments_eq_splitOn (defaultPort : Nat) {cs : List Char} (h : '\\' ∉ cs) :
    splitSegments (.web defaultPort) cs = cs.splitOn '/' := by
  induction cs with
  | nil => rfl
  | cons c cs ih =>
    simp only [List.mem_cons, not_or] at h
    have ih' := ih h.2
    rw [splitSegments] at ih' ⊢
    rw [List.splitOnP_cons_eq_if_modifyHead, List.splitOn_cons_eq_if_modifyHead, ih']
    simp [SchemeKind.isSlash, Ne.symm h.1]

/-! ## The path -/

theorem pathChars_map_percentEncode (segments : List (List Char)) :
    pathChars (segments.map (percentEncode escapedInPath)) =
      percentEncode escapedInPath (pathChars segments) := by
  induction segments with
  | nil => rfl
  | cons segment segments ih =>
    have hcons (segment : List Char) (segments : List (List Char)) :
        pathChars (segment :: segments) = '/' :: (segment ++ pathChars segments) := rfl
    have happend (cs more : List Char) : percentEncode escapedInPath (cs ++ more) =
        percentEncode escapedInPath cs ++ percentEncode escapedInPath more := List.flatMap_append
    rw [List.map_cons, hcons, hcons, ih, percentEncode_cons, happend]
    rfl

/-- The segments that a text is read as stand for its bytes, with every separator as a slash. -/
theorem percentDecode_encoded (kind : SchemeKind) (cs : List Char) :
    percentDecode (pathChars (encoded kind cs)) = 0x2F :: percentDecode (slashed kind cs) := by
  rw [encoded, pathChars_map_percentEncode, percentDecode_percentEncode, pathChars_splitSegments,
    percentDecode_cons (by decide)]
  rfl

theorem weight_encoded (kind : SchemeKind) (cs : List Char) :
    weight (encoded kind cs) = (percentDecode (slashed kind cs)).length + 1 := by
  rw [weight, percentDecode_encoded, List.length_cons]

theorem percentDecode_pathChars_plain {segments : List (List Char)}
    (h : ∀ segment ∈ segments, IsPlainSegment segment) :
    percentDecode (pathChars segments) = utf8 (pathChars segments) := by
  refine percentDecode_of_not_holdsByte ?_
  rintro ⟨a, b, -, -, hwithin⟩
  obtain ⟨segment, hsegment, hmem⟩ :=
    List.mem_flatMap.1 (hwithin.subset (List.mem_cons_self (a := '%')))
  rcases List.mem_cons.1 hmem with hslash | hmem
  · cases hslash
  · exact ne_of_isForbiddenAscii ((h segment hsegment).allowed hmem) rfl rfl

theorem isDots_percentEncode {cs segment : List Char} (hbytes : ¬ HoldsByte cs)
    (hsegment : segment ∈ cs.splitOn '/') :
    isDots (percentEncode escapedInPath segment) = true ↔
      segment = ['.'] ∨ segment = ['.', '.'] := by
  have hutf8 : percentDecode (percentEncode escapedInPath segment) = utf8 segment := by
    rw [percentDecode_percentEncode]
    refine percentDecode_of_not_holdsByte ?_
    rintro ⟨a, b, ha, hb, hwithin⟩
    exact hbytes ⟨a, b, ha, hb, hwithin.trans (infix_of_mem_splitOn hsegment)⟩
  constructor
  · intro h
    rw [isDots, Bool.or_eq_true] at h
    rcases h with h | h
    · exact .inl (utf8_injective (hutf8.symm.trans (percentDecode_of_isSame h)))
    · exact .inr (utf8_injective (hutf8.symm.trans (percentDecode_of_isParent h)))
  · rintro (rfl | rfl) <;> rfl

section

variable {defaultPort : Nat} {segments : List (List Char)} {cs : List Char}

theorem isDots_of_mem_encoded (hslashes : '\\' ∉ cs) (hbytes : ¬ HoldsByte cs) :
    (∀ segment ∈ encoded (.web defaultPort) cs, isDots segment = false) ↔
      ['.'] ∉ cs.splitOn '/' ∧ ['.', '.'] ∉ cs.splitOn '/' := by
  rw [encoded, splitSegments_eq_splitOn _ hslashes, List.forall_mem_map]
  constructor
  · intro h
    have hnot {segment : List Char} (hmem : segment ∈ cs.splitOn '/')
        (hdot : segment = ['.'] ∨ segment = ['.', '.']) : False := by
      have hfalse := h segment hmem
      rw [(isDots_percentEncode hbytes hmem).2 hdot] at hfalse
      cases hfalse
    exact ⟨fun hmem => hnot hmem (.inl rfl), fun hmem => hnot hmem (.inr rfl)⟩
  · intro h segment hmem
    by_contra hdots
    rcases (isDots_percentEncode hbytes hmem).1 (by simpa using hdots) with rfl | rfl
    · exact h.1 hmem
    · exact h.2 hmem

/-- **Where as many bytes come out as the text has, none was lost on the way**: the whole text was
read, and neither a byte nor a segment of dots was in it. -/
theorem whole_of_weight_le (h : weight segments + (utf8 cs).length + 1 ≤
      weight (addSegments segments (encoded (.web defaultPort) (pathPart cs)))) :
    pathPart cs = cs ∧ ¬ HoldsByte (slashed (.web defaultPort) cs) ∧
      (∀ segment ∈ encoded (.web defaultPort) cs, isDots segment = false) ∧
      addSegments segments (encoded (.web defaultPort) cs) =
        segments ++ encoded (.web defaultPort) cs := by
  have hbehind := weight_encoded (.web defaultPort) (pathPart cs)
  have hread := length_percentDecode_le (slashed (.web defaultPort) (pathPart cs))
  have hslashed := length_utf8_slashed (.web defaultPort) (pathPart cs)
  have hpart := length_utf8_le (pathPart_sublist cs)
  rcases addSegments_cases segments (encoded (.web defaultPort) (pathPart cs)) with
    ⟨hdots, hadd⟩ | ⟨-, hlt⟩
  · rw [hadd, weight_append] at h
    have hwhole : pathPart cs = cs := eq_of_length_utf8 (pathPart_sublist cs) (by omega)
    rw [hwhole] at hdots hadd h hbehind hslashed
    refine ⟨hwhole, fun hbyte => ?_, hdots, hadd⟩
    rcases percentDecode_cases (slashed (.web defaultPort) cs) with ⟨hnot, -⟩ | ⟨-, hlt⟩
    · exact hnot hbyte
    · omega
  · omega

/-- **A path stands for a text behind plain segments exactly if the text stands for itself.** -/
theorem percentDecode_path_iff (hsegments : ∀ segment ∈ segments, IsPlainSegment segment) :
    percentDecode (pathChars (addSegments segments (encoded (.web defaultPort) (pathPart cs)))) =
      utf8 (pathChars segments ++ '/' :: cs) ↔ StandsForItself cs := by
  have hfront := percentDecode_pathChars_plain hsegments
  have hwanted : utf8 (pathChars segments ++ '/' :: cs) =
      utf8 (pathChars segments) ++ 0x2F :: utf8 cs := utf8_append _ _
  rw [hwanted]
  constructor
  · intro h
    have hweight : weight segments + (utf8 cs).length + 1 =
        weight (addSegments segments (encoded (.web defaultPort) (pathPart cs))) := by
      rw [weight, weight, h, hfront, List.length_append, List.length_cons, Nat.add_assoc]
    obtain ⟨hwhole, hbytes, hdots, hadd⟩ := whole_of_weight_le hweight.le
    rw [hwhole, hadd, percentDecode_pathChars_append, hfront, percentDecode_encoded,
      percentDecode_of_not_holdsByte hbytes] at h
    have hself : slashed (.web defaultPort) cs = cs :=
      utf8_injective (List.cons.inj (List.append_cancel_left h)).2
    have hslashes : '\\' ∉ cs := slashed_eq_self_iff.1 hself
    rw [hself] at hbytes
    exact ⟨pathPart_eq_self_iff.1 hwhole, hslashes, hbytes,
      (isDots_of_mem_encoded hslashes hbytes).1 hdots⟩
  · intro h
    have hdots : ∀ segment ∈ encoded (.web defaultPort) cs, isDots segment = false :=
      (isDots_of_mem_encoded h.slashes h.bytes).2 h.dots
    rw [pathPart_eq_self_iff.2 h.whole]
    rcases addSegments_cases segments (encoded (.web defaultPort) cs) with
      ⟨-, hadd⟩ | ⟨⟨segment, hsegment, hdot⟩, -⟩
    · rw [hadd, percentDecode_pathChars_append, hfront, percentDecode_encoded,
        slashed_eq_self_iff.2 h.slashes, percentDecode_of_not_holdsByte h.bytes]
    · rw [hdots segment hsegment] at hdot
      cases hdot

end

end Vendoring.Url

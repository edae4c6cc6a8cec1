import Vendoring.Text.LowerCase

/-!
# Lower case keeps names apart

A path is lower-cased segment by segment, so the mapping must never make a slash out of something
else and never make a segment vanish; and what follows the last dot must stay what follows the last
dot. All of it comes from the table: no run of `lowerCaseRuns` reaches down to the punctuation that
separates (`above_of_mem_lowerCaseRuns`).

The table also says where lower case and ASCII meet. On ASCII the mapping is that of `A` to `Z`, and
**one character outside ASCII has an ASCII form**, the Kelvin sign (`isAscii_of_lowerChar`).
-/

set_option autoImplicit false

namespace Vendoring

namespace Text

/-! ## What the table says of a run -/

/-- No lower-case form of a run is as low as the slash, which is 47. -/
theorem above_of_mem_lowerCaseRuns : ∀ run ∈ lowerCaseRuns,
    47 < (run.first : Int) + run.shift := by
  decide +kernel

/-- The lower-case forms of a run are characters, on the same side of the surrogates. -/
theorem valid_of_mem_lowerCaseRuns : ∀ run ∈ lowerCaseRuns,
    (run.last : Int) + run.shift < 0xD800 ∨
      0xDFFF < (run.first : Int) + run.shift ∧ (run.last : Int) + run.shift < 0x110000 := by
  decide +kernel

/-- A run leads into ASCII from ASCII only, but for the Kelvin sign. -/
theorem ascii_of_mem_lowerCaseRuns : ∀ run ∈ lowerCaseRuns,
    run.last < 128 ∨ 128 ≤ (run.first : Int) + run.shift ∨
      run.first = 0x212A ∧ run.last = 0x212A := by
  decide +kernel

/-! ## One character -/

theorem toNat_ofNat {n : Nat} (h : n.isValidChar) : (Char.ofNat n).toNat = n := by
  rw [Char.ofNat, dif_pos h]
  rfl

theorem holds_iff {run : CaseRun} {n : Nat} :
    run.holds n = true ↔ run.first ≤ n ∧ n ≤ run.last ∧ (n - run.first) % run.step = 0 := by
  simp [CaseRun.holds, and_assoc]

/-- A character stays because no run holds it, or it moves by the shift of one that does. -/
theorem lowerChar_eq_or_moves (c : Char) :
    (lowerChar c = c ∧ ∀ run ∈ lowerCaseRuns, run.holds c.toNat = false) ∨
      ∃ run ∈ lowerCaseRuns, run.holds c.toNat = true ∧
        ((lowerChar c).toNat : Int) = c.toNat + run.shift := by
  unfold lowerChar
  cases hrun : lowerCaseRuns.find? (·.holds c.toNat) with
  | none => exact .inl ⟨rfl, by simpa using List.find?_eq_none.1 hrun⟩
  | some run =>
    have hmem := List.mem_of_find?_eq_some hrun
    have hholds : run.holds c.toNat = true := by simpa using List.find?_some hrun
    obtain ⟨hfirst, hlast, -⟩ := holds_iff.1 hholds
    refine .inr ⟨run, hmem, hholds, ?_⟩
    -- the code point it moves to is a character, or else it would become the one of code 0
    have habove := above_of_mem_lowerCaseRuns run hmem
    have hvalid := valid_of_mem_lowerCaseRuns run hmem
    rw [toNat_ofNat]
    · omega
    · unfold Nat.isValidChar
      omega

/-- A character stays, or it moves by the shift of a run that holds it. -/
theorem lowerChar_cases (c : Char) :
    lowerChar c = c ∨ ∃ run ∈ lowerCaseRuns, run.first ≤ c.toNat ∧ c.toNat ≤ run.last ∧
      ((lowerChar c).toNat : Int) = c.toNat + run.shift := by
  refine (lowerChar_eq_or_moves c).imp And.left ?_
  rintro ⟨run, hmem, hholds, hshift⟩
  obtain ⟨hfirst, hlast, -⟩ := holds_iff.1 hholds
  exact ⟨run, hmem, hfirst, hlast, hshift⟩

/-- What does not stay comes to lie above the slash. -/
theorem lowerChar_eq_or_above (c : Char) : lowerChar c = c ∨ 47 < (lowerChar c).toNat := by
  refine (lowerChar_cases c).imp_right ?_
  rintro ⟨run, hmem, hfirst, -, hshift⟩
  have habove := above_of_mem_lowerCaseRuns run hmem
  omega

theorem isAscii_of_lowerChar {c : Char} (h : (lowerChar c).toNat < 128) :
    c.toNat < 128 ∨ c = '\u212A' := by
  rcases lowerChar_cases c with hstays | ⟨run, hmem, hfirst, hlast, hshift⟩
  · rw [hstays] at h
    exact .inl h
  · rcases ascii_of_mem_lowerCaseRuns run hmem with hascii | habove | ⟨hkelvin, hkelvin'⟩
    · exact .inl (by omega)
    · omega
    · right
      rw [← Char.toNat_inj]
      have hval : ('\u212A' : Char).toNat = 0x212A := rfl
      omega

theorem lowerChar_kelvin : lowerChar '\u212A' = 'k' := by
  decide +kernel

theorem lowerChar_of_ascii {c : Char} (h : c.toNat < 128) : lowerChar c = c.toLower := by
  have hall : ∀ n < 128, lowerChar (Char.ofNat n) = (Char.ofNat n).toLower := by decide +kernel
  have hc := hall c.toNat h
  rwa [Char.ofNat_toNat] at hc

theorem toLower_of_not_ascii {c : Char} (h : 128 ≤ c.toNat) : c.toLower = c := by
  have hnot : ¬ (c.val ≥ 'A'.val ∧ c.val ≤ 'Z'.val) := by
    rintro ⟨-, hle⟩
    have hle : c.toNat ≤ 90 := hle
    omega
  exact dif_neg hnot

theorem toLower_of_ascii {c : Char} (h : c.toNat < 128) :
    c.toLower.toNat < 128 ∧ c.toLower.toLower = c.toLower := by
  have hall : ∀ n < 128, (Char.ofNat n).toLower.toNat < 128 ∧
      (Char.ofNat n).toLower.toLower = (Char.ofNat n).toLower := by
    decide +kernel
  have hc := hall c.toNat h
  rwa [Char.ofNat_toNat] at hc

theorem toLower_toLower (c : Char) : c.toLower.toLower = c.toLower := by
  rcases Nat.lt_or_ge c.toNat 128 with hascii | hwide
  · exact (toLower_of_ascii hascii).2
  · rw [toLower_of_not_ascii hwide, toLower_of_not_ascii hwide]

/-- A letter outside ASCII that has another lower-case form. -/
def isWideCapital (c : Char) : Bool := 128 ≤ c.toNat && (c == 'İ' || lowerChar c != c)

theorem lowerChar_of_not_isWideCapital {c : Char} (h : isWideCapital c = false) :
    c ≠ 'Σ' ∧ c ≠ 'İ' ∧ lowerChar c = c.toLower := by
  refine ⟨?_, ?_, ?_⟩
  · rintro rfl
    exact absurd h (by decide +kernel)
  · rintro rfl
    exact absurd h (by decide +kernel)
  · by_cases hascii : c.toNat < 128
    · exact lowerChar_of_ascii hascii
    · have hwide := Nat.le_of_not_lt hascii
      simp only [isWideCapital, hwide, decide_true, Bool.true_and, Bool.or_eq_false_iff,
        bne_eq_false_iff_eq] at h
      rw [h.2, toLower_of_not_ascii hwide]

/-! ## Runs of characters -/

/-- What a character becomes in lower case, by its place. -/
inductive Lowers : Char → List Char → Prop where
  | sigma : Lowers 'Σ' ['σ']
  | finalSigma : Lowers 'Σ' ['ς']
  | dotted : Lowers 'İ' ['i', '\u0307']
  | simple {c : Char} (hsigma : c ≠ 'Σ') (hdotted : c ≠ 'İ') : Lowers c [lowerChar c]

theorem Lowers.ne_nil {c : Char} {here : List Char} (h : Lowers c here) : here ≠ [] := by
  cases h <;> exact List.cons_ne_nil _ _

/-- Punctuation that separates comes from itself only. -/
theorem Lowers.eq_of_mem {c d : Char} {here : List Char} (h : Lowers c here) (hd : d ∈ here)
    (hlow : d.toNat ≤ 47) : c = d := by
  have hothers : ∀ d ∈ ['σ', 'ς', 'i', '\u0307'], ¬ d.toNat ≤ 47 := by simp
  cases h with
  | sigma => exact absurd hlow (hothers d (by simp_all))
  | finalSigma => exact absurd hlow (hothers d (by simp_all))
  | dotted => exact absurd hlow (hothers d (List.mem_cons_of_mem _ (List.mem_cons_of_mem _ hd)))
  | simple =>
    rw [List.mem_singleton] at hd
    subst hd
    rcases lowerChar_eq_or_above c with hstays | habove
    · exact hstays.symm
    · omega

/-- A character outside ASCII becomes something outside ASCII, or the `k` of the Kelvin sign. -/
theorem Lowers.exists_mark {c : Char} {here : List Char} (h : Lowers c here)
    (hwide : 128 ≤ c.toNat) : ∃ d ∈ here, 128 ≤ d.toNat ∨ d = 'k' := by
  cases h with
  | sigma => exact ⟨_, List.mem_singleton_self _, .inl (by decide)⟩
  | finalSigma => exact ⟨_, List.mem_singleton_self _, .inl (by decide)⟩
  | dotted => exact ⟨'\u0307', by simp, .inl (by decide)⟩
  | simple =>
    refine ⟨_, List.mem_singleton_self _, ?_⟩
    by_cases hascii : (lowerChar c).toNat < 128
    · rcases isAscii_of_lowerChar hascii with hnot | rfl
      · omega
      · exact .inr lowerChar_kelvin
    · exact .inl (Nat.le_of_not_lt hascii)

theorem lowerCharsAfter_cons (before : List Char) (c : Char) (cs : List Char) :
    ∃ here, Lowers c here ∧
      lowerCharsAfter before (c :: cs) = here ++ lowerCharsAfter (c :: before) cs := by
  refine ⟨_, ?_, rfl⟩
  split
  · next hsigma =>
    subst hsigma
    split
    · exact .finalSigma
    · exact .sigma
  · next hsigma =>
    split
    · next hdotted =>
      subst hdotted
      exact .dotted
    · next hdotted => exact .simple hsigma hdotted

theorem mem_lowerCharsAfter {before cs : List Char} {d : Char}
    (h : d ∈ lowerCharsAfter before cs) : ∃ c ∈ cs, ∃ here, Lowers c here ∧ d ∈ here := by
  induction cs generalizing before with
  | nil => cases h
  | cons c cs ih =>
    obtain ⟨here, hlowers, heq⟩ := lowerCharsAfter_cons before c cs
    rw [heq] at h
    rcases List.mem_append.1 h with hd | hrest
    · exact ⟨c, List.mem_cons_self, here, hlowers, hd⟩
    · obtain ⟨c', hc', hd⟩ := ih hrest
      exact ⟨c', List.mem_cons_of_mem c hc', hd⟩

theorem subset_lowerCharsAfter {cs : List Char} {c : Char} (hc : c ∈ cs) (before : List Char) :
    ∃ here, Lowers c here ∧ here ⊆ lowerCharsAfter before cs := by
  induction cs generalizing before with
  | nil => cases hc
  | cons c' cs ih =>
    obtain ⟨here, hlowers, heq⟩ := lowerCharsAfter_cons before c' cs
    rw [heq]
    rcases List.mem_cons.1 hc with rfl | hc
    · exact ⟨here, hlowers, List.subset_append_left _ _⟩
    · obtain ⟨here', hlowers', hsub⟩ := ih hc (c' :: before)
      exact ⟨here', hlowers', fun d hd => List.mem_append_right _ (hsub hd)⟩

/-- **Lower case adds no punctuation that separates.** -/
theorem not_mem_lowerCharsAfter {cs : List Char} {d : Char} (hlow : d.toNat ≤ 47) (h : d ∉ cs)
    (before : List Char) : d ∉ lowerCharsAfter before cs := by
  intro hmem
  obtain ⟨c, hc, here, hlowers, hd⟩ := mem_lowerCharsAfter hmem
  exact h (hlowers.eq_of_mem hd hlow ▸ hc)

theorem slash_not_mem_lowerChars {cs : List Char} (h : '/' ∉ cs) : '/' ∉ lowerChars cs :=
  not_mem_lowerCharsAfter (by decide) h []

theorem lowerChars_ne_nil {cs : List Char} (h : cs ≠ []) : lowerChars cs ≠ [] := by
  obtain ⟨c, hc⟩ := List.exists_mem_of_ne_nil cs h
  obtain ⟨here, hlowers, hsub⟩ := subset_lowerCharsAfter hc []
  intro hnil
  rw [← lowerChars, hnil] at hsub
  exact hlowers.ne_nil (List.subset_nil.1 hsub)

/-- What comes later is lower-cased as what it is, with all that was before it in front. -/
theorem lowerCharsAfter_append (before as bs : List Char) :
    ∃ front, (front = [] ↔ as = []) ∧
      lowerCharsAfter before (as ++ bs) = front ++ lowerCharsAfter (as.reverse ++ before) bs := by
  induction as generalizing before with
  | nil => exact ⟨[], by simp, rfl⟩
  | cons a as ih =>
    obtain ⟨here, hlowers, heq⟩ := lowerCharsAfter_cons before a (as ++ bs)
    obtain ⟨front, -, hfront⟩ := ih (a :: before)
    refine ⟨here ++ front, by simp [hlowers.ne_nil], ?_⟩
    rw [List.cons_append, heq, hfront, List.append_assoc, List.reverse_cons, List.append_assoc]
    rfl

/-- **Without wide capitals, lower case is that of the letters `A` to `Z`.** -/
theorem lowerCharsAfter_eq_map {cs : List Char} (h : ∀ c ∈ cs, isWideCapital c = false)
    (before : List Char) : lowerCharsAfter before cs = cs.map Char.toLower := by
  induction cs generalizing before with
  | nil => rfl
  | cons c cs ih =>
    obtain ⟨hsigma, hdotted, hlower⟩ := lowerChar_of_not_isWideCapital (h c List.mem_cons_self)
    rw [lowerCharsAfter, if_neg hsigma, if_neg hdotted, hlower,
      ih fun d hd => h d (List.mem_cons_of_mem c hd)]
    rfl

/-- **A character outside ASCII leaves a mark**: something outside ASCII or a `k`. -/
theorem exists_mark_of_not_ascii {cs : List Char} {c : Char} (hc : c ∈ cs) (hwide : 128 ≤ c.toNat)
    (before : List Char) : ∃ d ∈ lowerCharsAfter before cs, 128 ≤ d.toNat ∨ d = 'k' := by
  obtain ⟨here, hlowers, hsub⟩ := subset_lowerCharsAfter hc before
  obtain ⟨d, hd, hmark⟩ := hlowers.exists_mark hwide
  exact ⟨d, hsub hd, hmark⟩

/-! ## Lower case of lower case

No letter moves to one that would move again. In the table this shows in each pair of runs: where
the letters of the one come to lie lies apart from the other, or the letters of the two cases take
turns there. -/

/-- The code point that the first letter of a run moves to. -/
def CaseRun.firstMoved (run : CaseRun) : Nat := ((run.first : Int) + run.shift).toNat

/-- Nothing that the run's letters move to is held by the other run. -/
def CaseRun.misses (run other : CaseRun) : Bool :=
  Nat.blt other.last run.firstMoved
    || Nat.blt (run.firstMoved + (run.last - run.first)) other.first
    || ((run.first == run.last || run.step == 2) && other.step == 2
      && (run.firstMoved + other.first) % 2 == 1)

theorem misses_of_mem_lowerCaseRuns :
    (lowerCaseRuns.all fun run => lowerCaseRuns.all run.misses) = true := by
  decide +kernel

theorem holds_eq_false_of_misses {run other : CaseRun} (hmem : run ∈ lowerCaseRuns)
    (h : run.misses other = true) {n m : Nat} (hn : run.holds n = true)
    (hm : (m : Int) = n + run.shift) : other.holds m = false := by
  obtain ⟨hfirst, hlast, hstep⟩ := holds_iff.1 hn
  have habove := above_of_mem_lowerCaseRuns run hmem
  rw [Bool.eq_false_iff]
  intro hother
  obtain ⟨hfirst', hlast', hstep'⟩ := holds_iff.1 hother
  simp only [CaseRun.misses, CaseRun.firstMoved, Bool.or_eq_true, Bool.and_eq_true, beq_iff_eq,
    Nat.blt_eq] at h
  rcases h with (hbelow | habove) | ⟨⟨hsingle | htwo, htwo'⟩, hturns⟩
  · omega
  · omega
  · rw [htwo'] at hstep'
    omega
  · rw [htwo] at hstep
    rw [htwo'] at hstep'
    omega

theorem lowerChar_lowerChar (c : Char) : lowerChar (lowerChar c) = lowerChar c := by
  rcases lowerChar_eq_or_moves c with ⟨hstays, -⟩ | ⟨run, hmem, hholds, hshift⟩
  · rw [hstays, hstays]
  · rcases lowerChar_eq_or_moves (lowerChar c) with ⟨hstays, -⟩ | ⟨other, hmem', hholds', -⟩
    · exact hstays
    · have hmisses := List.all_eq_true.1
        (List.all_eq_true.1 misses_of_mem_lowerCaseRuns run hmem) other hmem'
      rw [holds_eq_false_of_misses hmem hmisses hholds hshift] at hholds'
      cases hholds'

/-- A character that lower case leaves alone, whatever stands around it. -/
def IsLower (c : Char) : Prop := c ≠ 'Σ' ∧ c ≠ 'İ' ∧ lowerChar c = c

theorem isLower_lowerChar {c : Char} (hdotted : c ≠ 'İ') : IsLower (lowerChar c) := by
  refine ⟨?_, ?_, lowerChar_lowerChar c⟩
  · -- a capital sigma has another form, so it is no form of anything
    intro hsigma
    have hagain := lowerChar_lowerChar c
    rw [hsigma] at hagain
    exact absurd hagain (by decide +kernel)
  · intro hform
    rcases lowerChar_eq_or_moves c with ⟨hstays, -⟩ | ⟨run, hmem, hholds, hshift⟩
    · exact hdotted (hstays.symm.trans hform)
    · rw [hform] at hshift
      have hnone : (lowerCaseRuns.all fun run => run.misses ⟨0x130, 0x130, 2, 0⟩) = true := by
        decide +kernel
      have hmisses := List.all_eq_true.1 hnone run hmem
      have hfree := holds_eq_false_of_misses hmem hmisses hholds hshift
      exact absurd hfree (by decide)

theorem Lowers.isLower {c : Char} {here : List Char} (h : Lowers c here) :
    ∀ d ∈ here, IsLower d := by
  have hsigma : IsLower 'σ' := ⟨by decide, by decide, by decide +kernel⟩
  have hfinal : IsLower 'ς' := ⟨by decide, by decide, by decide +kernel⟩
  have hletter : IsLower 'i' := ⟨by decide, by decide, by decide +kernel⟩
  have hdot : IsLower '\u0307' := ⟨by decide, by decide, by decide +kernel⟩
  cases h with
  | sigma => exact List.forall_mem_singleton.2 hsigma
  | finalSigma => exact List.forall_mem_singleton.2 hfinal
  | dotted => exact List.forall_mem_cons.2 ⟨hletter, List.forall_mem_singleton.2 hdot⟩
  | simple _ hdotted => exact List.forall_mem_singleton.2 (isLower_lowerChar hdotted)

theorem lowerCharsAfter_of_isLower {cs : List Char} (h : ∀ c ∈ cs, IsLower c)
    (before : List Char) : lowerCharsAfter before cs = cs := by
  induction cs generalizing before with
  | nil => rfl
  | cons c cs ih =>
    obtain ⟨hsigma, hdotted, hstays⟩ := h c List.mem_cons_self
    rw [lowerCharsAfter, if_neg hsigma, if_neg hdotted, hstays,
      ih fun d hd => h d (List.mem_cons_of_mem c hd)]
    rfl

/-- **Lower case is stable**: it has nothing left to do on what it has done. -/
theorem lowerChars_lowerChars (cs : List Char) : lowerChars (lowerChars cs) = lowerChars cs := by
  apply lowerCharsAfter_of_isLower
  intro d hd
  obtain ⟨c, -, here, hlowers, hmem⟩ := mem_lowerCharsAfter hd
  exact hlowers.isLower d hmem

/-- What is in lower case nothing but one separator, was that before. -/
theorem eq_of_lowerCharsAfter_eq_replicate {d : Char} (hlow : d.toNat ≤ 47) {cs before : List Char}
    {n : Nat} (h : lowerCharsAfter before cs = List.replicate n d) : cs = List.replicate n d := by
  induction cs generalizing before n with
  | nil => exact h
  | cons c cs ih =>
    obtain ⟨here, hlowers, heq⟩ := lowerCharsAfter_cons before c cs
    rw [heq] at h
    obtain ⟨first, hfirst⟩ := List.exists_mem_of_ne_nil here hlowers.ne_nil
    have hall : ∀ x ∈ here, x = d := fun x hx =>
      List.eq_of_mem_replicate (h ▸ List.mem_append_left _ hx)
    obtain rfl : c = d := hlowers.eq_of_mem (hall first hfirst ▸ hfirst) hlow
    have hone : here.length = 1 := by
      cases hlowers with
      | sigma | finalSigma | simple => rfl
      | dotted => exact absurd hlow (by decide)
    rw [List.append_eq_replicate_iff] at h
    obtain ⟨hlength, -, hrest⟩ := h
    rw [ih hrest, ← hlength, hone, Nat.add_comm, List.replicate_succ]

/-! ## Equality up to the case of ASCII letters -/

theorem equalIgnoringAsciiCase_iff {s t : String} :
    equalIgnoringAsciiCase s t = true ↔ s.toList.map Char.toLower = t.toList.map Char.toLower :=
  beq_iff_eq

/-- Without wide capitals, a text and its lower case are equal to the same texts. -/
theorem equalIgnoringAsciiCase_lowered {cs : List Char} (h : ∀ c ∈ cs, isWideCapital c = false)
    (before : List Char) (s : String) :
    equalIgnoringAsciiCase s (String.ofList (lowerCharsAfter before cs)) =
      equalIgnoringAsciiCase s (String.ofList cs) := by
  have hmap : (cs.map Char.toLower).map Char.toLower = cs.map Char.toLower := by
    rw [List.map_map]
    exact List.map_congr_left fun c _ => toLower_toLower c
  simp only [equalIgnoringAsciiCase, String.toList_ofList, lowerCharsAfter_eq_map h, hmap]

theorem exists_mark_of_equal {s : String} {cs : List Char} {c : Char} (hc : c ∈ cs)
    (hwide : 128 ≤ c.toNat) {before : List Char}
    (h : equalIgnoringAsciiCase s (String.ofList (lowerCharsAfter before cs)) = true) :
    ∃ d ∈ s.toList, 128 ≤ d.toNat ∨ d.toLower = 'k' := by
  obtain ⟨d, hd, hmark⟩ := exists_mark_of_not_ascii hc hwide before
  rw [equalIgnoringAsciiCase_iff, String.toList_ofList] at h
  have hmem : d.toLower ∈ s.toList.map Char.toLower := by
    rw [h]
    exact List.mem_map_of_mem hd
  obtain ⟨d', hd', heq⟩ := List.mem_map.1 hmem
  refine ⟨d', hd', ?_⟩
  rcases hmark with hwide | rfl
  · rcases Nat.lt_or_ge d'.toNat 128 with hascii | hwide'
    · have hlow := (toLower_of_ascii hascii).1
      rw [heq, toLower_of_not_ascii hwide] at hlow
      omega
    · exact .inl hwide'
  · exact .inr heq

end Text

end Vendoring

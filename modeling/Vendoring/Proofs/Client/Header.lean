import Vendoring.Client.Header
import Vendoring.Proofs.Text.Blank

/-!
# Headers, byte by byte

A token is looked at character by character, but a header is sent as bytes. The two views agree: a
character outside ASCII is encoded without a control byte (`toNat_of_mem_utf8EncodeChar`), so **a
token can be sent exactly if no byte of it is a control byte** (`ofToken_by_bytes`). No header is ever
built that has one, and so none that ends its own line.
-/

set_option autoImplicit false

namespace Vendoring.Header

/-- The bytes that a header value may not hold: all control bytes but the tab. -/
def IsControl (b : UInt8) : Prop := b = 127 ∨ b < 32 ∧ b ≠ 9

instance : DecidablePred IsControl := fun b => inferInstanceAs (Decidable (b = 127 ∨ b < 32 ∧ b ≠ 9))

/-- Some byte of the text in UTF-8 is a control byte. -/
def HoldsControl (s : String) : Prop := ∃ b ∈ s.toUTF8.data, IsControl b

instance (s : String) : Decidable (HoldsControl s) :=
  inferInstanceAs (Decidable (∃ b ∈ s.toUTF8.data, IsControl b))

/-! ## Bytes of characters -/

theorem mem_toUTF8_iff {s : String} {b : UInt8} :
    b ∈ s.toUTF8.data ↔ ∃ c ∈ s.toList, b ∈ String.utf8EncodeChar c := by
  have hbytes : s.toUTF8 = (s.toList.flatMap String.utf8EncodeChar).toByteArray := by
    rw [String.toUTF8_eq_toByteArray, ← List.utf8Encode, ← String.toByteArray_ofList,
      String.ofList_toList]
  rw [hbytes, List.data_toByteArray, List.mem_toArray, List.mem_flatMap]

/-- **A character in ASCII is one byte, and any other has no byte in ASCII.** -/
theorem toNat_of_mem_utf8EncodeChar {c : Char} {b : UInt8} (h : b ∈ String.utf8EncodeChar c) :
    (c.toNat < 0x80 ∧ b.toNat = c.toNat) ∨ (0x80 ≤ c.toNat ∧ 0x80 ≤ b.toNat) := by
  have hlead : ∀ {n m low : Nat}, 0x80 ≤ low → low + m ≤ 0x100 → 0 < m →
      0x80 ≤ (UInt8.ofNat (n % m + low)).toNat := by
    intro n m low hlow hfits hm
    have hmod := Nat.mod_lt n hm
    rw [UInt8.toNat_ofNat', Nat.mod_eq_of_lt (by omega)]
    omega
  show (c.val.toNat < 0x80 ∧ b.toNat = c.val.toNat) ∨ (0x80 ≤ c.val.toNat ∧ 0x80 ≤ b.toNat)
  simp only [String.utf8EncodeChar] at h
  split at h
  · next hone =>
    left
    rw [List.mem_singleton.1 h, UInt8.toNat_ofNat', Nat.mod_eq_of_lt (by omega)]
    exact ⟨by omega, rfl⟩
  · next hone =>
    refine .inr ⟨by omega, ?_⟩
    split at h
    · simp only [List.mem_cons, List.not_mem_nil, or_false] at h
      rcases h with rfl | rfl <;> exact hlead (by decide) (by decide) (by decide)
    · split at h
      · simp only [List.mem_cons, List.not_mem_nil, or_false] at h
        rcases h with rfl | rfl | rfl <;> exact hlead (by decide) (by decide) (by decide)
      · simp only [List.mem_cons, List.not_mem_nil, or_false] at h
        rcases h with rfl | rfl | rfl | rfl <;> exact hlead (by decide) (by decide) (by decide)

theorem isControl_iff (b : UInt8) :
    IsControl b ↔ b.toNat = 127 ∨ b.toNat < 32 ∧ b.toNat ≠ 9 := by
  have heq : ∀ n : UInt8, b = n ↔ b.toNat = n.toNat := fun n => UInt8.toNat_inj.symm
  rw [IsControl, heq 127, Ne, heq 9, UInt8.lt_iff_toNat_lt]
  rfl

theorem canSend_eq_true_iff (c : Char) :
    canSend c = true ↔ ¬ (c.toNat = 127 ∨ c.toNat < 32 ∧ c.toNat ≠ 9) := by
  have htab : c = '\t' ↔ c.toNat = 9 := by
    rw [← Char.toNat_inj]
    rfl
  rw [canSend, Bool.or_eq_true, Bool.and_eq_true, decide_eq_true_iff, decide_eq_true_iff,
    decide_eq_true_iff, htab]
  omega

theorem exists_isControl_iff (c : Char) :
    (∃ b ∈ String.utf8EncodeChar c, IsControl b) ↔ canSend c ≠ true := by
  rw [Ne, canSend_eq_true_iff, not_not]
  constructor
  · rintro ⟨b, hb, hcontrol⟩
    rw [isControl_iff] at hcontrol
    have := toNat_of_mem_utf8EncodeChar hb
    omega
  · intro hc
    obtain ⟨b, hb⟩ := List.exists_mem_of_ne_nil _ (String.utf8EncodeChar_ne_nil (c := c))
    refine ⟨b, hb, ?_⟩
    rw [isControl_iff]
    have := toNat_of_mem_utf8EncodeChar hb
    omega

/-- **A text can be sent in a header exactly if none of its bytes is a control byte.** -/
theorem all_canSend_iff (s : String) : s.toList.all canSend = true ↔ ¬ HoldsControl s := by
  have hholds : HoldsControl s ↔ ∃ c ∈ s.toList, canSend c ≠ true := by
    constructor
    · rintro ⟨b, hb, hcontrol⟩
      obtain ⟨c, hc, hb⟩ := mem_toUTF8_iff.1 hb
      exact ⟨c, hc, (exists_isControl_iff c).1 ⟨b, hb, hcontrol⟩⟩
    · rintro ⟨c, hc, hnot⟩
      obtain ⟨b, hb, hcontrol⟩ := (exists_isControl_iff c).2 hnot
      exact ⟨b, mem_toUTF8_iff.2 ⟨c, hc, hb⟩, hcontrol⟩
  rw [hholds, List.all_eq_true]
  simp

theorem holdsControl_append (s t : String) :
    HoldsControl (s ++ t) ↔ HoldsControl s ∨ HoldsControl t := by
  have hbytes : ∀ b : UInt8,
      b ∈ (s ++ t).toUTF8.data ↔ b ∈ s.toUTF8.data ∨ b ∈ t.toUTF8.data := by
    intro b
    simp only [mem_toUTF8_iff, String.toList_append, List.mem_append, or_and_right, exists_or]
  simp only [HoldsControl, hbytes, or_and_right, exists_or]

/-! ## Headers for a token -/

/-- The headers for a token of which `t` is left without the white space around it. -/
theorem ofToken_some (token : String) :
    ofToken (some token) =
      if Text.trim token = "" then .ok [userAgent]
      else if HoldsControl (Text.trim token) then .error .invalidToken
      else .ok [bearer (Text.trim token), userAgent] := by
  rw [ofToken, effectiveToken?, Option.bind_some]
  by_cases hempty : Text.trim token = ""
  · rw [if_pos hempty, hempty]
    rfl
  · rw [if_neg hempty, if_neg (mt String.isEmpty_iff.1 hempty)]
    dsimp only
    by_cases hholds : HoldsControl (Text.trim token)
    · rw [if_pos hholds, if_neg fun hall => (all_canSend_iff _).1 hall hholds]
    · rw [if_neg hholds, if_pos ((all_canSend_iff _).2 hholds)]

/-- No header that is built has a control byte in its value. -/
theorem not_holdsControl_of_ofToken {token : Option String} {headers : List Header}
    (h : ofToken token = .ok headers) : ∀ header ∈ headers, ¬ HoldsControl header.value := by
  have hagent : ¬ HoldsControl userAgent.value := by
    rw [← all_canSend_iff]
    decide +kernel
  cases token with
  | none =>
    cases h
    rintro header hheader
    rw [List.mem_singleton.1 hheader]
    exact hagent
  | some token =>
    rw [ofToken_some] at h
    split at h
    · cases h
      rintro header hheader
      rw [List.mem_singleton.1 hheader]
      exact hagent
    · split at h
      · cases h
      · next hclean =>
        cases h
        have hscheme : ¬ HoldsControl "Bearer " := by
          rw [← all_canSend_iff]
          decide +kernel
        have hbearer : ¬ HoldsControl ("Bearer " ++ Text.trim token) := by
          rw [holdsControl_append, not_or]
          exact ⟨hscheme, hclean⟩
        rintro header hheader
        rcases List.mem_cons.1 hheader with rfl | hheader
        · exact hbearer
        · rw [List.mem_singleton.1 hheader]
          exact hagent

/-- **The headers for every token, by its bytes.** Without a token there is the name of who asks and
nothing else. For a token, what counts is the part `t` of it inside the white space around it: if
there is none, the headers are the same as without a token; if a byte of it is a control byte other
than the tab, the token is refused; in every other case, also outside ASCII, a sensitive header goes
in front whose bytes are `Bearer ` and those of `t`. No header that is built for any token has a
control byte in it, and more white space around a token changes nothing. -/
theorem ofToken_by_bytes :
    let agent : Header := ⟨"user-agent", "ghidra-sync/0.1.0", false⟩
    ofToken none = .ok [agent] ∧
    (∀ token t, Text.Trims token t →
      (t = "" → ofToken (some token) = .ok [agent]) ∧
      (t ≠ "" → HoldsControl t → ofToken (some token) = .error .invalidToken) ∧
      (t ≠ "" → ¬ HoldsControl t → ∃ value, ofToken (some token) =
        .ok [⟨"authorization", value, true⟩, agent] ∧
        value.toUTF8 = "Bearer ".toUTF8 ++ t.toUTF8)) ∧
    (∀ token, ∃ t, Text.Trims token t) ∧
    (∀ token headers, ofToken token = .ok headers →
      ∀ header ∈ headers, ¬ HoldsControl header.value) ∧
    ∀ before after, Text.isAllBlank before = true → Text.isAllBlank after = true → ∀ token,
      ofToken (some (before ++ token ++ after)) = ofToken (some token) := by
  intro agent
  refine ⟨rfl, ?_, fun token => ⟨_, Text.trims_trim token⟩,
    fun token headers => not_holdsControl_of_ofToken, ?_⟩
  · intro token t h
    obtain rfl := Text.trims_iff.1 h
    rw [ofToken_some]
    refine ⟨fun hempty => if_pos hempty, ?_, ?_⟩
    · intro hne hholds
      rw [if_neg hne, if_pos hholds]
    · intro hne hclean
      rw [if_neg hne, if_neg hclean]
      exact ⟨_, rfl, String.toByteArray_append⟩
  · intro before after hbefore hafter token
    rw [ofToken_some, ofToken_some, Text.trim_surrounded hbefore hafter]

/-- A no-break space and a line break around a token with a next-line character inside, which is
white space and two bytes that can be sent; and a token with a line break inside. -/
theorem ofToken_by_bytes_pasted :
    let agent : Header := ⟨"user-agent", "ghidra-sync/0.1.0", false⟩
    Text.Trims "\u00a0a\u0085ä\r\n" "a\u0085ä" ∧
      (∃ value, ofToken (some "\u00a0a\u0085ä\r\n") =
        .ok [⟨"authorization", value, true⟩, agent] ∧
        value.toUTF8 = "Bearer ".toUTF8 ++ "a\u0085ä".toUTF8) ∧
      ¬ HoldsControl "Bearer a\u0085ä" ∧
      ofToken (some "a\nb\u2003") = .error .invalidToken ∧
      ofToken (some " \t\u3000") = .ok [agent] ∧
      ofToken (some ("\u00a0" ++ "a" ++ "\n")) = ofToken (some "a") := by
  intro agent
  obtain ⟨-, htoken, -, hclean, hsurrounded⟩ := ofToken_by_bytes
  have hpasted : Text.Trims "\u00a0a\u0085ä\r\n" "a\u0085ä" := Text.trims_iff.2 (by decide +kernel)
  have hbroken : Text.Trims "a\nb\u2003" "a\nb" := Text.trims_iff.2 (by decide +kernel)
  have hblank : Text.Trims " \t\u3000" "" := Text.trims_iff.2 (by decide +kernel)
  have hbuilt : ofToken (some "a\u0085ä") = .ok [bearer "a\u0085ä", userAgent] := by
    decide +kernel
  have hspace : Text.isAllBlank "\u00a0" = true := by decide +kernel
  have hline : Text.isAllBlank "\n" = true := by decide +kernel
  exact ⟨hpasted, (htoken _ _ hpasted).2.2 (by decide) (by decide +kernel),
    hclean _ _ hbuilt _ List.mem_cons_self, (htoken _ _ hbroken).2.1 (by decide) (by decide +kernel),
    (htoken _ _ hblank).1 rfl, hsurrounded _ _ hspace hline _⟩

end Vendoring.Header

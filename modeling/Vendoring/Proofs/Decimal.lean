/-!
# The digits of a number

A natural number is written with its decimal digits. **There is one at least, and a zero comes first
only if it is the only one** (`toDigits_eq_cons`, `toDigits_ne_zero_cons`), so what tells numbers
apart by their first characters takes them for decimal ones.
-/

set_option autoImplicit false

namespace Vendoring.Decimal

theorem isDigit_of_mem_toDigits {n : Nat} {d : Char} (h : d ∈ Nat.toDigits 10 n) :
    d.isDigit = true :=
  Nat.isDigit_of_mem_toDigits (by decide) (by decide) h

/-- A number has no zero in front of other digits. -/
theorem toDigits_ne_zero_cons (n : Nat) (d : Char) (ds : List Char) :
    Nat.toDigits 10 n ≠ '0' :: d :: ds := by
  have hhead : ∀ n, 0 < n → ∀ ds, Nat.toDigits 10 n ≠ '0' :: ds := by
    intro n
    induction n using Nat.strongRecOn with
    | ind n ih =>
      intro hn ds h
      rw [Nat.toDigits_eq_if (by decide)] at h
      split at h
      · have hzero := (List.cons.inj h).1
        rw [Nat.digitChar_eq_zero] at hzero
        omega
      · cases hfront : Nat.toDigits 10 (n / 10) with
        | nil => exact Nat.toDigits_ne_nil hfront
        | cons c cs =>
          rw [hfront, List.cons_append] at h
          obtain ⟨rfl, -⟩ := List.cons.inj h
          exact ih (n / 10) (by omega) (by omega) cs hfront
  intro h
  rcases Nat.eq_zero_or_pos n with rfl | hn
  · rw [Nat.toDigits_zero] at h
    exact absurd h (by simp)
  · exact hhead n hn _ h

/-- The first digit. -/
theorem toDigits_eq_cons (n : Nat) :
    ∃ d ds, Nat.toDigits 10 n = d :: ds ∧ d.isDigit = true := by
  obtain ⟨d, ds, hdigits⟩ := List.exists_cons_of_ne_nil (Nat.toDigits_ne_nil (n := n) (b := 10))
  exact ⟨d, ds, hdigits, isDigit_of_mem_toDigits (hdigits ▸ List.mem_cons_self)⟩

end Vendoring.Decimal

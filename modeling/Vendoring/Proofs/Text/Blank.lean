import Mathlib.Data.List.DropRight
import Mathlib.Data.List.TakeWhile
import Vendoring.Text.Blank

/-!
# Text without the white space around it

What `trim` leaves of a text is told by the text alone: it stands inside white space and has none at
its own two ends (`Trims`). There is exactly one such part of every text (`trims_iff`), and **more
white space around a text changes nothing** (`trim_surrounded`).
-/

set_option autoImplicit false

namespace Vendoring.Text

/-- What is left of a text is `t`, which has no white space at its ends. -/
structure Trims (s t : String) : Prop where
  inside : ∃ before after, isAllBlank before = true ∧ isAllBlank after = true ∧
    s = before ++ t ++ after
  first : ∀ c ∈ t.toList.head?, isBlank c = false
  last : ∀ c ∈ t.toList.getLast?, isBlank c = false

theorem trimChars_append_right (cs : List Char) {after : List Char}
    (h : ∀ c ∈ after, isBlank c = true) : trimChars (cs ++ after) = trimChars cs := by
  have hafter : after.dropWhile isBlank = [] := List.dropWhile_eq_nil_iff.2 h
  have hback : after.reverse.dropWhile isBlank = [] :=
    List.dropWhile_eq_nil_iff.2 fun c hc => h c (List.mem_reverse.1 hc)
  rw [trimChars, trimChars, List.dropWhile_append]
  split
  · next hempty => rw [List.isEmpty_iff.1 hempty, hafter]
  · rw [List.reverse_append, List.dropWhile_append, hback]
    rfl

/-- **White space around a text does not matter.** -/
theorem trimChars_surrounded {before after : List Char} (hbefore : ∀ c ∈ before, isBlank c = true)
    (hafter : ∀ c ∈ after, isBlank c = true) (cs : List Char) :
    trimChars (before ++ cs ++ after) = trimChars cs := by
  rw [trimChars_append_right _ hafter, trimChars, List.dropWhile_append_of_pos hbefore, trimChars]

theorem trim_surrounded {before after : String} (hbefore : isAllBlank before = true)
    (hafter : isAllBlank after = true) (s : String) : trim (before ++ s ++ after) = trim s := by
  rw [trim, String.toList_append, String.toList_append,
    trimChars_surrounded (List.all_eq_true.1 hbefore) (List.all_eq_true.1 hafter), trim]

theorem trimChars_eq_self {cs : List Char} (hfirst : ∀ c ∈ cs.head?, isBlank c = false)
    (hlast : ∀ c ∈ cs.getLast?, isBlank c = false) : trimChars cs = cs := by
  have hdrop : ∀ ds : List Char, (∀ c ∈ ds.head?, isBlank c = false) →
      ds.dropWhile isBlank = ds := by
    intro ds h
    cases ds with
    | nil => rfl
    | cons d ds => exact List.dropWhile_cons_of_neg (by simp [h d rfl])
  rw [trimChars, hdrop cs hfirst, hdrop cs.reverse (by rwa [List.head?_reverse]),
    List.reverse_reverse]

theorem trims_trim (s : String) : Trims s (trim s) := by
  have hfront := List.takeWhile_append_dropWhile (p := isBlank) (l := s.toList)
  have hback := List.takeWhile_append_dropWhile (p := isBlank)
    (l := (s.toList.dropWhile isBlank).reverse)
  have hchars : (trim s).toList = trimChars s.toList := String.toList_ofList
  refine ⟨⟨.ofList (s.toList.takeWhile isBlank),
    .ofList ((s.toList.dropWhile isBlank).reverse.takeWhile isBlank).reverse, ?_, ?_, ?_⟩, ?_, ?_⟩
  · rw [isAllBlank, String.toList_ofList, List.all_eq_true]
    exact fun c hc => List.mem_takeWhile_imp hc
  · rw [isAllBlank, String.toList_ofList, List.all_eq_true]
    exact fun c hc => List.mem_takeWhile_imp (List.mem_reverse.1 hc)
  · apply String.toList_injective
    rw [String.toList_append, String.toList_append, hchars, String.toList_ofList,
      String.toList_ofList, List.append_assoc, trimChars, ← List.reverse_append, hback,
      List.reverse_reverse, hfront]
  · -- the first character that is left is still there when the end is cut off
    intro c hc
    rw [hchars] at hc
    have hprefix : trimChars s.toList <+: s.toList.dropWhile isBlank :=
      List.rdropWhile_prefix isBlank _
    have hhead : c ∈ (s.toList.dropWhile isBlank).head? := by
      obtain ⟨rest, hrest⟩ := hprefix
      rw [← hrest, List.head?_append, Option.mem_def.1 hc]
      rfl
    have hnot := List.head?_dropWhile_not isBlank s.toList
    rw [Option.mem_def.1 hhead] at hnot
    simpa using hnot
  · intro c hc
    rw [hchars, trimChars, List.getLast?_reverse] at hc
    have hnot := List.head?_dropWhile_not isBlank (s.toList.dropWhile isBlank).reverse
    rw [Option.mem_def.1 hc] at hnot
    simpa using hnot

/-- **What `trim` leaves is the one part of the text that is inside white space and has none at its
ends.** -/
theorem trims_iff {s t : String} : Trims s t ↔ trim s = t := by
  constructor
  · rintro ⟨⟨before, after, hbefore, hafter, rfl⟩, hfirst, hlast⟩
    rw [trim_surrounded hbefore hafter, trim, trimChars_eq_self hfirst hlast, String.ofList_toList]
  · rintro rfl
    exact trims_trim s

end Vendoring.Text

import Vendoring.Proofs.Url.Marks

/-!
# Where the parts of a URL end

The query of a URL goes from its first question mark to its first hash, and the fragment from there
to the end. This is so because **no part in front of the query holds a question mark or a hash, and
the query holds no hash** (`Proper.of_ofChars`).

So a URL's parts can be told from its text, and a parameter that is added to the query is added to
the text at the query's end (`Proper.chars_addParameter`).
-/

set_option autoImplicit false

namespace Vendoring.Url

/-! ## The parts of a URL that was read -/

/-- What stands in front of a URL's query. -/
def hierarchy (u : Url) : List Char :=
  u.scheme ++ [':'] ++ marked ['/', '/'] u.authority ++ u.shownPath

section Marks

variable {d : Char}

theorem mem_marked {mark : List Char} {part : Option (List Char)} :
    d ∈ marked mark part → d ∈ mark ∨ d ∈ part.getD [] := by
  cases part with
  | none => exact nofun
  | some cs => exact List.mem_append.1

theorem IsMark.not_mem_hierarchy (hd : IsMark d) {u : Url} (hscheme : d ∉ u.scheme)
    (hauthority : d ∉ u.authority.getD []) (hpath : d ∉ u.path) : d ∉ u.hierarchy := by
  have hcolon : d ∉ [':'] := hd.not_mem (by decide)
  have hslashes : d ∉ ['/', '/'] := hd.not_mem (by decide)
  have hdot : d ∉ ['/', '.'] := hd.not_mem (by decide)
  have hshown : d ∉ u.shownPath := by
    unfold shownPath
    split
    · exact fun h => (List.mem_append.1 h).elim hdot hpath
    · exact hpath
  have hmarked : d ∉ marked ['/', '/'] u.authority := fun h =>
    (mem_marked h).elim hslashes hauthority
  simp only [hierarchy, List.mem_append, not_or]
  exact ⟨⟨⟨hscheme, hcolon⟩, hmarked⟩, hshown⟩

theorem not_mem_splitAtMark (cs : List Char) : d ∉ (splitAtMark d cs).1 := by
  intro hmem
  unfold splitAtMark at hmem
  split at hmem
  · next h => simpa using List.dropWhile_eq_nil_iff.1 h d hmem
  · simpa using List.mem_takeWhile_imp hmem

theorem splitAtMark_append_marked {as : List Char} (has : d ∉ as) (part : Option (List Char)) :
    splitAtMark d (as ++ marked [d] part) = (as, part) := by
  have hpass : ∀ a ∈ as, decide (a ≠ d) = true := fun a ha =>
    decide_eq_true fun h => has (h ▸ ha)
  cases part with
  | none =>
    have hdrop : as.dropWhile (· ≠ d) = [] := List.dropWhile_eq_nil_iff.2 hpass
    simp only [splitAtMark, marked, List.append_nil, hdrop]
  | some cs =>
    have hdrop : (as ++ d :: cs).dropWhile (· ≠ d) = d :: cs := by
      rw [List.dropWhile_append_of_pos hpass, List.dropWhile_cons_of_neg (by simp)]
    have htake : (as ++ d :: cs).takeWhile (· ≠ d) = as := by
      rw [List.takeWhile_append_of_pos hpass, List.takeWhile_cons_of_neg (by simp), List.append_nil]
    simp only [splitAtMark, marked, List.singleton_append, hdrop, htake]

end Marks

/-- A URL whose parts end where its text says so. -/
structure Proper (u : Url) : Prop where
  hierarchy : ∀ {d : Char}, IsMark d → d ∉ u.hierarchy
  query : '#' ∉ u.query.getD []

/-- **No part of a URL that was read holds a mark that ends it.** -/
theorem Proper.of_ofChars {cs : List Char} {u : Url} (h : ofChars cs = .ok u) : Proper u := by
  unfold ofChars at h
  split at h
  · exact absurd h nofun
  · next scheme rest hscheme =>
    dsimp only at h
    obtain ⟨⟨authority, path⟩, hplace, h⟩ := bind_eq_ok.1 h
    obtain rfl := Except.ok.inj h
    -- The text is cut at the marks before anything is read, at the hash first: a question mark
    -- behind a hash starts no query.
    have hbefore : '#' ∉ (splitAtMark '#' rest).1 := not_mem_splitAtMark rest
    obtain ⟨hfront, hbehind⟩ := splitAtMark_subset '?' (splitAtMark '#' rest).1
    constructor
    · intro d hd
      have hgiven : d ∉ (splitAtMark '?' (splitAtMark '#' rest).1).1 := by
        rcases hd with rfl | rfl
        · exact not_mem_splitAtMark _
        · exact fun hmem => hbefore (hfront hmem)
      obtain ⟨hauthority, hpath⟩ := hd.not_mem_place hgiven hplace
      exact hd.not_mem_hierarchy (hd.not_mem_scheme hscheme) hauthority hpath
    · cases hquery : (splitAtMark '?' (splitAtMark '#' rest).1).2 with
      | none => exact List.not_mem_nil
      | some query =>
        rw [hquery] at hbehind
        exact IsMark.not_mem_percentEncode (.inr rfl) (.inr fun hmem => hbefore (hbehind hmem))

/-- What stands in front of a URL's fragment. -/
def beforeFragment (u : Url) : List Char := u.hierarchy ++ marked ['?'] u.query

theorem Proper.splitAtMark_chars {u : Url} (h : Proper u) :
    splitAtMark '#' u.chars = (u.beforeFragment, u.fragment) := by
  have hmarked : '#' ∉ marked ['?'] u.query := fun hmem =>
    (mem_marked hmem).elim (by decide) h.query
  have hfront : '#' ∉ u.beforeFragment := fun hmem =>
    (List.mem_append.1 hmem).elim (h.hierarchy (.inr rfl)) hmarked
  exact splitAtMark_append_marked hfront u.fragment

theorem Proper.splitAtMark_beforeFragment {u : Url} (h : Proper u) :
    splitAtMark '?' u.beforeFragment = (u.hierarchy, u.query) :=
  splitAtMark_append_marked (h.hierarchy (.inl rfl)) u.query

/-! ## Adding to the query -/

/-- A parameter brings no mark into a URL. -/
theorem Proper.addParameter {u : Url} (h : Proper u) (name value : List Char) :
    Proper (u.addParameter name value) where
  hierarchy := h.hierarchy
  query := by
    have hmark : IsMark '#' := .inr rfl
    have hpair : '#' ∉ formPair name value := by
      simp [formPair, hmark.not_mem_formEncode]
    have hquery := h.query
    show '#' ∉ extendedQuery u.query name value
    cases hq : u.query with
    | none => exact hpair
    | some cs =>
      rw [hq] at hquery
      cases cs with
      | nil => exact hpair
      | cons c cs => simpa [extendedQuery, hpair] using hquery

/-- The text of a URL with a parameter at the end of its query. -/
def withParameter (parameter : List Char) (text : List Char) : List Char :=
  let (before, fragment) := splitAtMark '#' text
  let joint := match (splitAtMark '?' before).2 with
    | none => ['?']
    | some [] => []
    | some _ => ['&']
  before ++ joint ++ parameter ++ marked ['#'] fragment

/-- **A parameter is added at the end of the query.** -/
theorem Proper.chars_addParameter {u : Url} (h : Proper u) (name value : List Char) :
    (u.addParameter name value).chars = withParameter (formPair name value) u.chars := by
  have hchars : (u.addParameter name value).chars =
      u.hierarchy ++ marked ['?'] (some (extendedQuery u.query name value)) ++
        marked ['#'] u.fragment := rfl
  unfold withParameter
  rw [hchars, h.splitAtMark_chars]
  dsimp only
  rw [h.splitAtMark_beforeFragment, beforeFragment]
  cases u.query with
  | none => simp [extendedQuery, marked]
  | some query =>
    cases query with
    | nil => simp [extendedQuery, marked]
    | cons c query => simp [extendedQuery, marked]

example : withParameter "ref=x".toList "a:b?c#d?e".toList = "a:b?c&ref=x#d?e".toList := by decide

end Vendoring.Url

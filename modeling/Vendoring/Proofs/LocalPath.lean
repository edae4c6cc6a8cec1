import Mathlib.Data.List.TakeWhile
import Vendoring.LocalPath
import Vendoring.FileTree.Basic

/-!
# Components of joined paths and of parents

`LocalPath` is text, and its meaning is `components`. The operations on the text are proved here to
be the obvious ones on components:

* `components_join`: a relative path of proper names adds exactly those names to its base;
* `components_parent?`: the parent of a path has all components but the last;
* `components_of_parent?_eq_none`: only the empty path and the root have no parent.

Everything goes through two facts about a slash in the text (`components_root`,
`components_slash`), so that no proof has to look at characters again.
-/

set_option autoImplicit false

namespace Vendoring

namespace LocalPath

/-! ## Splitting at slashes -/

theorem splitSlash_slash (cs rest : List Char) :
    splitSlash (cs ++ '/' :: rest) = splitSlash cs ++ splitSlash rest :=
  List.splitOn_append_cons_self cs rest

theorem splitSlash_joinSlash {segments : List (List Char)} (hne : segments ≠ [])
    (h : ∀ segment ∈ segments, '/' ∉ segment) : splitSlash (joinSlash segments) = segments :=
  List.splitOn_intercalate '/' h hne

theorem exists_splitSlash_eq (cs : List Char) : ∃ first rest, splitSlash cs = first :: rest :=
  List.exists_cons_of_ne_nil (List.splitOn_ne_nil '/' cs)

theorem joinSlash_splitSlash (cs : List Char) : joinSlash (splitSlash cs) = cs :=
  List.intercalate_splitOn '/'

/-- No segment between slashes holds a slash. -/
theorem slash_not_mem_of_mem_splitSlash {cs segment : List Char}
    (h : segment ∈ splitSlash cs) : '/' ∉ segment := by
  induction cs generalizing segment with
  | nil =>
    rw [splitSlash, List.splitOn_nil, List.mem_singleton] at h
    simp [h]
  | cons c cs ih =>
    rw [splitSlash, List.splitOn_cons_eq_if_modifyHead] at h
    split at h
    · rcases List.mem_cons.1 h with rfl | h
      · simp
      · exact ih h
    · next hc =>
      obtain ⟨first, rest, hsplit⟩ := List.exists_cons_of_ne_nil (List.splitOn_ne_nil '/' cs)
      rw [hsplit, List.modifyHead_cons] at h
      rcases List.mem_cons.1 h with rfl | h
      · have hfirst : '/' ∉ first := ih (by rw [splitSlash, hsplit]; exact List.mem_cons_self)
        simpa [hfirst] using fun heq => hc (by simp [← heq])
      · exact ih (by rw [splitSlash, hsplit]; exact List.mem_cons_of_mem _ h)

/-- A text that does not end with a slash ends with a segment that is not empty. -/
theorem getLast?_splitSlash (front : List Char) {last : Char} (hlast : last ≠ '/') :
    ∃ segment, (splitSlash (front ++ [last])).getLast? = some segment ∧ segment ≠ [] := by
  induction front with
  | nil => exact ⟨[last], by simp [splitSlash, List.splitOn_cons_eq_if_modifyHead, hlast], by simp⟩
  | cons c front ih =>
    obtain ⟨segment, hsegment, hne⟩ := ih
    obtain ⟨first, rest, hsplit⟩ :=
      List.exists_cons_of_ne_nil (List.splitOn_ne_nil '/' (front ++ [last]))
    rw [splitSlash, hsplit] at hsegment
    rw [splitSlash, List.cons_append, List.splitOn_cons_eq_if_modifyHead, hsplit]
    by_cases hc : c = '/'
    · exact ⟨segment, by simpa [hc, List.getLast?_cons_cons] using hsegment, hne⟩
    · cases rest with
      | nil => exact ⟨c :: first, by simp [hc], List.cons_ne_nil _ _⟩
      | cons second rest =>
        exact ⟨segment, by simpa [hc, List.getLast?_cons_cons] using hsegment, hne⟩

/-! ## Components of a text with a slash in it -/

@[simp] theorem innerComponent?_nil : innerComponent? [] = none := rfl

theorem innerComponent?_of_isFiller {segment : List Char} (h : isFiller segment = true) :
    innerComponent? segment = none := if_pos h

theorem innerComponent?_of_isFileName {name : List Char} (h : isFileName name = true) :
    innerComponent? name = some (.name (String.ofList name)) := by
  simp only [isFileName, Bool.and_eq_true, bne_iff_ne, Bool.not_eq_true'] at h
  obtain ⟨⟨⟨hne, -⟩, hdot⟩, hdots⟩ := h
  rw [innerComponent?, if_neg (by simp [isFiller, hne, hdot]), if_neg hdots]

/-- A segment that says something stands for exactly one component. -/
theorem innerComponent?_isSome {segment : List Char} (h : isFiller segment = false) :
    ∃ c, innerComponent? segment = some c := by
  rw [innerComponent?, if_neg (by simp [h])]
  split <;> exact ⟨_, rfl⟩

theorem filterMap_innerComponent?_names {names : List (List Char)}
    (h : ∀ name ∈ names, isFileName name = true) :
    names.filterMap innerComponent? = names.map fun name => .name (String.ofList name) := by
  induction names with
  | nil => rfl
  | cons name names ih =>
    rw [List.filterMap_cons, innerComponent?_of_isFileName (h name List.mem_cons_self),
      List.map_cons, ih fun n hn => h n (List.mem_cons_of_mem name hn)]

theorem components_root {p : LocalPath} {rest : List Char} (h : p.text.toList = '/' :: rest) :
    p.components = .root :: (splitSlash rest).filterMap innerComponent? := by
  have hsplit : splitSlash ('/' :: rest) = [] :: splitSlash rest := splitSlash_slash [] rest
  simp [components, isAbsolute, h, hsplit, firstComponent?]

/-- **A slash adds the components behind it**, unless it is the first character. -/
theorem components_slash {p q : LocalPath} {rest : List Char} (hne : q.text.toList ≠ [])
    (h : p.text.toList = q.text.toList ++ '/' :: rest) :
    p.components = q.components ++ (splitSlash rest).filterMap innerComponent? := by
  obtain ⟨first, others, hsplit⟩ :=
    List.exists_cons_of_ne_nil (List.splitOn_ne_nil '/' q.text.toList)
  have habs : p.isAbsolute = q.isAbsolute := by
    rw [isAbsolute, isAbsolute, h, List.head?_append, Option.or_of_isSome (by simpa using hne)]
  have hboth : splitSlash p.text.toList = first :: (others ++ splitSlash rest) := by
    rw [h, splitSlash_slash, splitSlash, hsplit, List.cons_append]
  have hone : splitSlash q.text.toList = first :: others := hsplit
  simp only [components, hboth, hone, habs, List.filterMap_append, List.append_assoc]

/-! ## Joining -/

/-- The three ways in which a relative path is put behind a base. -/
theorem join_cases (base : LocalPath) {p : LocalPath} (hp : p.isAbsolute = false) :
    (base.text.toList = [] ∧ base.join p = p) ∨
    (∃ front, base.text.toList = front ++ ['/'] ∧
      (base.join p).text.toList = front ++ '/' :: p.text.toList) ∨
    (∃ front last, base.text.toList = front ++ [last] ∧ last ≠ '/' ∧
      (base.join p).text.toList = base.text.toList ++ '/' :: p.text.toList) := by
  rcases List.eq_nil_or_concat base.text.toList with hb | ⟨front, last, hb⟩
  · exact .inl ⟨hb, by simp [join, hp, String.toList_eq_nil_iff.1 hb]⟩
  · rw [List.concat_eq_append] at hb
    by_cases hlast : last = '/'
    · exact .inr (.inl ⟨front, by rw [hb, hlast], by simp [join, hp, hb, hlast]⟩)
    · exact .inr (.inr ⟨front, last, hb, hlast, by simp [join, hp, hb, hlast]⟩)

/-- Seen from the empty path, a path is what it is. -/
theorem join_empty (p : LocalPath) : (⟨""⟩ : LocalPath).join p = p := by
  cases hp : p.isAbsolute with
  | true => simp [join, hp]
  | false => simp [join, hp]

theorem slash_not_mem_of_isFileName {name : List Char} (h : isFileName name = true) :
    '/' ∉ name := by
  simp only [isFileName, Bool.and_eq_true, Bool.not_eq_true', List.contains_eq_mem,
    decide_eq_false_iff_not] at h
  exact h.1.1.2

/-- The path of these names, one below the other. -/
def ofNames (names : List (List Char)) : LocalPath := ⟨String.ofList (joinSlash names)⟩

theorem ofNames_singleton (name : List Char) : ofNames [name] = ⟨String.ofList name⟩ := by
  rw [ofNames, joinSlash, List.intercalate_singleton]

theorem ofNames_splitSlash (p : LocalPath) : ofNames (splitSlash p.text.toList) = p := by
  rw [ofNames, joinSlash_splitSlash, String.ofList_toList]

section

variable {names : List (List Char)} (hne : names ≠ [])
  (h : ∀ name ∈ names, isFileName name = true)

include hne h

theorem splitSlash_ofNames : splitSlash (ofNames names).text.toList = names := by
  rw [ofNames, String.toList_ofList]
  exact splitSlash_joinSlash hne fun name hn => slash_not_mem_of_isFileName (h name hn)

theorem text_ofNames_ne : (ofNames names).text ≠ "" := by
  intro htext
  have hsplit := splitSlash_ofNames hne h
  rw [htext] at hsplit
  exact absurd (h [] (hsplit ▸ List.mem_singleton_self [])) (by decide)

theorem isAbsolute_ofNames : (ofNames names).isAbsolute = false := by
  obtain ⟨name, names, rfl⟩ := List.exists_cons_of_ne_nil hne
  have hname := h name List.mem_cons_self
  have hslash := slash_not_mem_of_isFileName hname
  cases name with
  | nil => simp [isFileName] at hname
  | cons c name =>
    have hc : c ≠ '/' := fun heq => hslash (heq ▸ List.mem_cons_self)
    cases names with
    | nil => simp [ofNames, joinSlash, isAbsolute, hc]
    | cons => simp [ofNames, joinSlash, isAbsolute, hc, List.intercalate_cons_cons]

theorem components_ofNames :
    (ofNames names).components = names.map fun name => .name (String.ofList name) := by
  have hsplit := splitSlash_ofNames hne h
  have habs := isAbsolute_ofNames hne h
  rw [← filterMap_innerComponent?_names h]
  cases names with
  | nil => exact absurd rfl hne
  | cons name names =>
    have hname := innerComponent?_of_isFileName (h name List.mem_cons_self)
    have hdot : name ≠ ['.'] := by
      rintro rfl
      exact absurd (h _ List.mem_cons_self) (by decide)
    simp [components, hsplit, habs, firstComponent?, hdot, hname]

/-- **A relative path of proper names adds exactly its names to the base**, whether the base is
empty, the root, or ends with a slash or not. -/
theorem components_join (base : LocalPath) :
    (base.join (ofNames names)).components =
      base.components ++ names.map fun name => .name (String.ofList name) := by
  have hsplit := splitSlash_ofNames hne h
  rcases join_cases base (isAbsolute_ofNames hne h) with
    ⟨hb, hj⟩ | ⟨front, hb, hj⟩ | ⟨front, last, hb, -, hj⟩
  · have hempty : base.components = [] := by simp [components, hb, splitSlash, isAbsolute,
      firstComponent?]
    rw [hj, hempty, components_ofNames hne h, List.nil_append]
  · -- the slash between the two is the base's own
    obtain ⟨q, rfl⟩ : ∃ q : LocalPath, q.text.toList = front := ⟨⟨String.ofList front⟩, by simp⟩
    by_cases hq : q.text.toList = []
    · rw [hq, List.nil_append] at hb hj
      rw [components_root hj, components_root hb, hsplit, filterMap_innerComponent?_names h]
      simp [splitSlash]
    · rw [components_slash hq hj, components_slash hq hb, hsplit,
        filterMap_innerComponent?_names h]
      simp [splitSlash]
  · rw [components_slash (by simp [hb]) hj, hsplit, filterMap_innerComponent?_names h]

end

/-- One name more below a path of names. -/
theorem ofNames_join {names : List (List Char)} {name : List Char}
    (h : ∀ name ∈ names, isFileName name = true) (hname : isFileName name = true) :
    (ofNames names).join (ofNames [name]) = ofNames (names ++ [name]) := by
  by_cases hne : names = []
  · rw [hne]
    exact join_empty _
  have hsplit := splitSlash_ofNames hne h
  have hone : ∀ n ∈ [name], isFileName n = true := by simpa using hname
  rcases join_cases (ofNames names) (isAbsolute_ofNames (List.cons_ne_nil name []) hone) with
    ⟨hb, -⟩ | ⟨front, hb, -⟩ | ⟨-, -, -, -, hj⟩
  · exact absurd (String.toList_eq_nil_iff.1 hb) (text_ofNames_ne hne h)
  · -- with a slash at its end the last of the names would be empty
    rw [hb, splitSlash_slash] at hsplit
    have hnil : [] ∈ names := hsplit ▸ List.mem_append_right _ (List.mem_singleton_self [])
    exact absurd (h [] hnil) (by decide)
  · have hjoined : splitSlash ((ofNames names).join (ofNames [name])).text.toList =
        names ++ [name] := by
      rw [hj, splitSlash_slash, hsplit, splitSlash_ofNames (List.cons_ne_nil name []) hone]
    rw [← hjoined, ofNames_splitSlash]

/-- Names joined one by one lie below each other. -/
theorem foldl_join_ofNames {names : List (List Char)} (front : List (List Char))
    (h : ∀ name ∈ front ++ names, isFileName name = true) :
    names.foldl (fun place name => place.join (ofNames [name])) (ofNames front) =
      ofNames (front ++ names) := by
  induction names generalizing front with
  | nil => rw [List.foldl_nil, List.append_nil]
  | cons name names ih =>
    rw [List.append_cons] at h
    have hfront : ∀ n ∈ front, isFileName n = true := fun n hn => h n (by simp [hn])
    have hname : isFileName name = true := h name (by simp)
    rw [List.foldl_cons, ofNames_join hfront hname, ih (front ++ [name]) h, ← List.append_cons]

/-! ## Parents

A parent is found on the segments read backwards: fillers at the end, then the one segment that
says something, then the parent. The lemmas follow that cut. -/

theorem filterMap_reverse_dropWhile_isFiller (segments : List (List Char)) :
    (segments.dropWhile isFiller).reverse.filterMap innerComponent? =
      segments.reverse.filterMap innerComponent? := by
  induction segments with
  | nil => rfl
  | cons segment segments ih =>
    by_cases hf : isFiller segment = true
    · rw [List.dropWhile_cons_of_pos hf, ih, List.reverse_cons, List.filterMap_append,
        List.filterMap_cons, innerComponent?_of_isFiller hf, List.filterMap_nil, List.append_nil]
    · rw [List.dropWhile_cons_of_neg hf]

theorem parentBodies_eq_nil_iff {segments : List (List Char)} :
    parentBodies segments = [] ↔ segments.filterMap innerComponent? = [] := by
  induction segments with
  | nil => simp [parentBodies]
  | cons segment segments ih =>
    cases hf : isFiller segment with
    | true => simp [parentBodies, hf, innerComponent?_of_isFiller hf, ih]
    | false =>
      obtain ⟨c, hc⟩ := innerComponent?_isSome hf
      simp [parentBodies, hf, hc]

/-- The nearest parent's segments stand for all components of the segments but the last one. -/
theorem filterMap_of_parentBodies_eq_cons {segments body : List (List Char)}
    {bodies : List (List (List Char))} (h : parentBodies segments.reverse = body :: bodies) :
    body.reverse.filterMap innerComponent? = (segments.filterMap innerComponent?).dropLast := by
  obtain ⟨backwards, rfl⟩ : ∃ backwards, segments = backwards.reverse :=
    ⟨segments.reverse, segments.reverse_reverse.symm⟩
  rw [List.reverse_reverse] at h
  induction backwards with
  | nil => cases h
  | cons segment before ih =>
    rw [List.reverse_cons, List.filterMap_append]
    cases hf : isFiller segment with
    | true =>
      rw [parentBodies, if_pos hf] at h
      rw [ih h, List.filterMap_cons, innerComponent?_of_isFiller hf, List.filterMap_nil,
        List.append_nil]
    | false =>
      obtain ⟨c, hc⟩ := innerComponent?_isSome hf
      rw [parentBodies, if_neg (by simp [hf]), List.cons.injEq] at h
      rw [← h.1, filterMap_reverse_dropWhile_isFiller, List.filterMap_cons, hc,
        List.filterMap_nil, List.dropLast_concat]

theorem mem_of_mem_parentBodies {segments body : List (List Char)}
    {bodies : List (List (List Char))} (h : parentBodies segments = body :: bodies)
    {segment : List Char} (hs : segment ∈ body) : segment ∈ segments := by
  induction segments with
  | nil => cases h
  | cons first segments ih =>
    rw [parentBodies] at h
    split at h
    · exact List.mem_cons_of_mem _ (ih h)
    · rw [List.cons.injEq] at h
      rw [← h.1] at hs
      exact List.mem_cons_of_mem _ ((List.dropWhile_sublist _).subset hs)

/-- A path is absolute exactly if its text splits into an empty segment and more. -/
theorem isAbsolute_iff {p : LocalPath} :
    p.isAbsolute = true ↔ ∃ second rest, splitSlash p.text.toList = [] :: second :: rest := by
  constructor
  · intro h
    rw [isAbsolute, beq_iff_eq, List.head?_eq_some_iff] at h
    obtain ⟨cs, hcs⟩ := h
    obtain ⟨second, rest, hsplit⟩ := List.exists_cons_of_ne_nil (List.splitOn_ne_nil '/' cs)
    refine ⟨second, rest, ?_⟩
    rw [hcs, ← List.nil_append ('/' :: cs), splitSlash_slash, ← hsplit]
    rfl
  · rintro ⟨second, rest, hsplit⟩
    have htext : p.text.toList = joinSlash ([] :: second :: rest) := by
      rw [← hsplit, joinSlash_splitSlash]
    rw [isAbsolute, htext, joinSlash, List.intercalate_cons_cons]
    rfl

theorem parents_absolute {p : LocalPath} {first : List Char} {rest : List (List Char)}
    (hs : splitSlash p.text.toList = first :: rest) (habs : p.isAbsolute = true) :
    p.parents = (parentBodies rest.reverse).map fun body =>
      ⟨String.ofList ('/' :: joinSlash body.reverse)⟩ := by
  rw [parents, hs]
  exact if_pos habs

theorem parents_relative {p : LocalPath} {first : List Char} {rest : List (List Char)}
    (hs : splitSlash p.text.toList = first :: rest) (habs : p.isAbsolute = false) :
    p.parents = (parentBodies rest.reverse).map
      (fun body => ⟨String.ofList (joinSlash (first :: body.reverse))⟩) ++
        if first.isEmpty then [] else [⟨""⟩] := by
  rw [parents, hs]
  exact if_neg (by simp [habs])

/-- A relative path with a second segment has a first one that is not empty. -/
theorem ne_nil_of_relative {p : LocalPath} {first second : List Char} {rest : List (List Char)}
    (hs : splitSlash p.text.toList = first :: second :: rest) (habs : p.isAbsolute = false) :
    first ≠ [] := by
  rintro rfl
  rw [isAbsolute_iff.2 ⟨second, rest, hs⟩] at habs
  cases habs

section

variable {p : LocalPath} {first : List Char} {rest body : List (List Char)}
  {bodies : List (List (List Char))} (hs : splitSlash p.text.toList = first :: rest)
  (h : parentBodies rest.reverse = body :: bodies)

include hs h

theorem slash_not_mem_body : ∀ segment ∈ first :: body.reverse, '/' ∉ segment := by
  intro segment hsegment
  have hmem : segment ∈ first :: rest := by
    rcases List.mem_cons.1 hsegment with rfl | hsegment
    · exact List.mem_cons_self
    · exact List.mem_cons_of_mem _
        (List.mem_reverse.1 (mem_of_mem_parentBodies h (List.mem_reverse.1 hsegment)))
  rw [← hs] at hmem
  exact slash_not_mem_of_mem_splitSlash hmem

/-- The nearest parent of a relative path splits into the segments that it is put together from. -/
theorem splitSlash_parent_relative (habs : p.isAbsolute = false) :
    splitSlash (text ⟨String.ofList (joinSlash (first :: body.reverse))⟩).toList =
        first :: body.reverse ∧
      isAbsolute ⟨String.ofList (joinSlash (first :: body.reverse))⟩ = false := by
  have hsplit : splitSlash (text ⟨String.ofList (joinSlash (first :: body.reverse))⟩).toList =
      first :: body.reverse := by
    rw [String.toList_ofList, splitSlash_joinSlash (List.cons_ne_nil _ _) (slash_not_mem_body hs h)]
  refine ⟨hsplit, Bool.eq_false_iff.2 fun hq => ?_⟩
  obtain ⟨second, others, hsegments⟩ := isAbsolute_iff.1 hq
  obtain rfl : first = [] := (List.cons.inj (hsplit.symm.trans hsegments)).1
  cases rest with
  | nil => cases h
  | cons second others => exact ne_nil_of_relative hs habs rfl

end

theorem filterMap_splitSlash_joinSlash {segments : List (List Char)}
    (h : ∀ segment ∈ segments, '/' ∉ segment) :
    (splitSlash (joinSlash segments)).filterMap innerComponent? =
      segments.filterMap innerComponent? := by
  cases segments with
  | nil => rfl
  | cons segment segments => rw [splitSlash_joinSlash (List.cons_ne_nil segment segments) h]

theorem firstComponent?_false_eq_none_iff {segment : List Char} :
    firstComponent? false segment = none ↔ segment = [] := by
  by_cases hdot : segment = ['.']
  · simp [firstComponent?, hdot]
  · cases segment with
    | nil => simp [firstComponent?]
    | cons c cs =>
      obtain ⟨found, hc⟩ : ∃ found, innerComponent? (c :: cs) = some found :=
        innerComponent?_isSome (by simpa [isFiller] using hdot)
      simp [firstComponent?, hdot, hc]

/-- Only the empty path and the root have no parent. -/
theorem components_of_parent?_eq_none {p : LocalPath} (h : p.parent? = none) :
    p.components = [] ∨ p.components = [.root] := by
  obtain ⟨first, rest, hs⟩ := exists_splitSlash_eq p.text.toList
  rw [parent?, List.head?_eq_none_iff] at h
  rw [components, hs]
  cases habs : p.isAbsolute with
  | true =>
    rw [parents_absolute hs habs, List.map_eq_nil_iff, parentBodies_eq_nil_iff,
      List.filterMap_reverse, List.reverse_eq_nil_iff] at h
    exact .inr (by simp [firstComponent?, h])
  | false =>
    rw [parents_relative hs habs, List.append_eq_nil_iff, List.map_eq_nil_iff,
      parentBodies_eq_nil_iff, List.filterMap_reverse, List.reverse_eq_nil_iff] at h
    simp only [ite_eq_left_iff, List.cons_ne_nil, imp_false, Decidable.not_not,
      List.isEmpty_iff] at h
    exact .inl (by simp [firstComponent?_false_eq_none_iff.2 h.2, h.1])

/-- **The parent has all components of the path but the last.** -/
theorem components_parent? {p q : LocalPath} (h : p.parent? = some q) :
    q.components = p.components.dropLast := by
  obtain ⟨first, rest, hs⟩ := exists_splitSlash_eq p.text.toList
  have hp : p.components =
      (firstComponent? p.isAbsolute first).toList ++ rest.filterMap innerComponent? := by
    rw [components, hs]
  rw [parent?] at h
  cases hbodies : parentBodies rest.reverse with
  | nil =>
    -- nothing but the first segment says something, so the parent is the empty path
    have hrest : rest.filterMap innerComponent? = [] := by
      rwa [parentBodies_eq_nil_iff, List.filterMap_reverse, List.reverse_eq_nil_iff] at hbodies
    have hq : q = ⟨""⟩ := by
      cases habs : p.isAbsolute with
      | true =>
        rw [parents_absolute hs habs, hbodies] at h
        cases h
      | false =>
        rw [parents_relative hs habs, hbodies, List.map_nil, List.nil_append] at h
        split at h
        · cases h
        · exact (Option.some.inj h).symm
    rw [hp, hrest, hq, List.append_nil]
    cases firstComponent? p.isAbsolute first <;> rfl
  | cons body bodies =>
    have hbody := filterMap_of_parentBodies_eq_cons hbodies
    have hne : rest.filterMap innerComponent? ≠ [] := by
      intro hrest
      have hnil : parentBodies rest.reverse = [] := by
        rw [parentBodies_eq_nil_iff, List.filterMap_reverse, hrest, List.reverse_nil]
      rw [hbodies] at hnil
      cases hnil
    rw [hp, List.dropLast_append_of_ne_nil hne, ← hbody]
    cases habs : p.isAbsolute with
    | true =>
      rw [parents_absolute hs habs, hbodies, List.map_cons, List.head?_cons, Option.some.injEq] at h
      have hqt : q.text.toList = '/' :: joinSlash body.reverse := by simp [← h]
      have hbs : ∀ segment ∈ body.reverse, '/' ∉ segment := fun segment hseg =>
        slash_not_mem_body hs hbodies segment (List.mem_cons_of_mem first hseg)
      rw [components_root hqt, filterMap_splitSlash_joinSlash hbs]
      rfl
    | false =>
      obtain ⟨hqs, hqabs⟩ := splitSlash_parent_relative hs hbodies habs
      rw [parents_relative hs habs, hbodies, List.map_cons, List.cons_append, List.head?_cons,
        Option.some.injEq] at h
      rw [← h, components, hqs, hqabs]

/-- The path without its last step, and the empty path where there is none to take away. -/
def parent (p : LocalPath) : LocalPath := p.parent?.getD ⟨""⟩

theorem components_parent (p : LocalPath) : p.parent.components = p.components.dropLast := by
  cases hp : p.parent? with
  | some q => rw [parent, hp, Option.getD_some, components_parent? hp]
  | none =>
    rw [parent, hp, Option.getD_none]
    rcases components_of_parent?_eq_none hp with hc | hc <;> rw [hc] <;> rfl

/-! ## Extensions -/

/-- What follows the last dot is the extension, unless the dot is in front. -/
theorem extensionOfName?_append (stem : List Char) {ext : List Char} (hdot : '.' ∉ ext) :
    extensionOfName? (stem ++ '.' :: ext) = if stem = [] then none else some ext := by
  have hext : ∀ c ∈ ext.reverse, (c != '.') = true := by
    intro c hc
    rw [bne_iff_ne]
    rintro rfl
    exact hdot (List.mem_reverse.1 hc)
  have hbackwards : (stem ++ '.' :: ext).reverse = ext.reverse ++ '.' :: stem.reverse := by simp
  rw [extensionOfName?, hbackwards, List.dropWhile_append_of_pos hext,
    List.takeWhile_append_of_pos hext]
  rcases List.eq_nil_or_concat stem with rfl | ⟨front, last, rfl⟩ <;> simp

theorem extensionOfName?_of_not_mem {name : List Char} (h : '.' ∉ name) :
    extensionOfName? name = none := by
  have hnil : name.reverse.dropWhile (· != '.') = [] := by
    rw [List.dropWhile_eq_nil_iff]
    intro c hc
    rw [bne_iff_ne]
    rintro rfl
    exact h (List.mem_reverse.1 hc)
  rw [extensionOfName?, hnil]

/-- A name has no dot, or a last one. -/
theorem exists_last_dot (name : List Char) :
    '.' ∉ name ∨ ∃ stem ext, name = stem ++ '.' :: ext ∧ '.' ∉ ext := by
  by_cases h : '.' ∈ name
  · obtain ⟨before, after, hsplit, hnot⟩ := List.eq_append_cons_of_mem (List.mem_reverse.2 h)
    refine .inr ⟨after.reverse, before.reverse, ?_, by simpa using hnot⟩
    rw [← List.reverse_reverse name, hsplit]
    simp
  · exact .inl h

end LocalPath

end Vendoring

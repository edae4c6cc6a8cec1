import Vendoring.Proofs.LocalPath

/-!
# Paths seen from a root

Seeing a path from a root forgets how the two were written, and nothing else: what it keeps is
whether the joined path is absolute, and its steps (`steps_resolve`, `isAbsolute_resolve`), from
which the result is spelt in the one shortest way. So two results are the same as soon as their
steps are, and **to see a path from one root and then from another is to see it from the first root
as that is seen from the second** (`resolve_resolve`).
-/

set_option autoImplicit false

namespace Vendoring

/-- A component that can stand anywhere in a path: not the root, and no `.`. -/
def Component.IsStep : Component → Prop
  | .up => True
  | .name s => isFileName s.toList = true
  | _ => False

namespace LocalPath

/-! ## The steps of a path -/

/-- The components, but for a root or a `.` in front. -/
def steps (p : LocalPath) : List Component :=
  (splitSlash p.text.toList).filterMap innerComponent?

/-- The component in front of the steps of an absolute path. -/
def start (absolute : Bool) : List Component := if absolute then [.root] else []

theorem chars_of_innerComponent? {segment : List Char} {c : Component}
    (h : innerComponent? segment = some c) : c.chars = segment := by
  unfold innerComponent? at h
  split at h
  · cases h
  · split at h
    · next hup =>
      cases h
      exact hup.symm
    · cases h
      exact String.toList_ofList

theorem isStep_of_innerComponent? {segment : List Char} (hslash : '/' ∉ segment) {c : Component}
    (h : innerComponent? segment = some c) : c.IsStep := by
  unfold innerComponent? at h
  split at h
  · cases h
  · next hfiller =>
    split at h
    · cases h
      trivial
    · next hup =>
      cases h
      simp only [isFiller, Bool.or_eq_true, beq_iff_eq, not_or] at hfiller
      simp [Component.IsStep, isFileName, hfiller.1, hfiller.2, hup, hslash]

theorem isStep_of_mem_steps {p : LocalPath} {c : Component} (h : c ∈ p.steps) : c.IsStep := by
  obtain ⟨segment, hsegment, hc⟩ := List.mem_filterMap.1 h
  exact isStep_of_innerComponent? (slash_not_mem_of_mem_splitSlash hsegment) hc

theorem innerComponent?_chars {c : Component} (h : c.IsStep) :
    innerComponent? c.chars = some c := by
  cases c with
  | root | here => cases h
  | up => rfl
  | name s => rw [Component.chars, innerComponent?_of_isFileName h, String.ofList_toList]

theorem slash_not_mem_chars {c : Component} (h : c.IsStep) : '/' ∉ c.chars := by
  cases c with
  | root | here => cases h
  | up => decide
  | name s => exact slash_not_mem_of_isFileName h

theorem isFiller_chars {c : Component} (h : c.IsStep) : isFiller c.chars = false := by
  by_contra hfiller
  rw [Bool.not_eq_false] at hfiller
  have hnone := innerComponent?_of_isFiller hfiller
  rw [innerComponent?_chars h] at hnone
  cases hnone

theorem chars_ne_nil {c : Component} (h : c.IsStep) : c.chars ≠ [] := by
  intro hempty
  have hfiller := isFiller_chars h
  rw [hempty] at hfiller
  cases hfiller

/-- A segment that stands for no component is empty or a `.`. -/
theorem eq_of_innerComponent?_eq_none {segment : List Char} (h : innerComponent? segment = none) :
    segment = [] ∨ segment = ['.'] := by
  have hfiller : isFiller segment = true := by
    by_contra hfiller
    obtain ⟨c, hsome⟩ := innerComponent?_isSome (Bool.eq_false_iff.2 hfiller)
    rw [h] at hsome
    cases hsome
  simpa [isFiller] using hfiller

/-- A relative path without a step is empty or begins with a `.`. -/
theorem splitSlash_of_steps_eq_nil {p : LocalPath} (hne : p.text ≠ "")
    (habs : p.isAbsolute = false) (hsteps : p.steps = []) :
    ∃ rest, splitSlash p.text.toList = ['.'] :: rest := by
  obtain ⟨first, rest, hs⟩ := exists_splitSlash_eq p.text.toList
  have hfirst : innerComponent? first = none := by
    cases hc : innerComponent? first with
    | none => rfl
    | some c => simp [steps, hs, hc] at hsteps
  rcases eq_of_innerComponent?_eq_none hfirst with rfl | rfl
  · cases rest with
    | nil =>
      have htext := joinSlash_splitSlash p.text.toList
      rw [hs] at htext
      exact absurd (String.toList_eq_nil_iff.1 htext.symm) hne
    | cons second rest => simp [isAbsolute_iff.2 ⟨second, rest, hs⟩] at habs
  · exact ⟨rest, hs⟩

/-- **The components of a path are its start and its steps**, but for a `.` in front. -/
theorem filter_components (p : LocalPath) :
    p.components.filter (· != .here) = start p.isAbsolute ++ p.steps := by
  obtain ⟨first, rest, hs⟩ := exists_splitSlash_eq p.text.toList
  have hinner : ∀ {segment c}, innerComponent? segment = some c → c ≠ .here := by
    rintro segment c hc rfl
    unfold innerComponent? at hc
    split at hc
    · cases hc
    · split at hc <;> cases hc
  have hrest : (rest.filterMap innerComponent?).filter (· != .here) =
      rest.filterMap innerComponent? := by
    refine List.filter_eq_self.2 fun c hc => bne_iff_ne.2 ?_
    obtain ⟨segment, -, hc⟩ := List.mem_filterMap.1 hc
    exact hinner hc
  rw [components, steps, hs]
  dsimp only
  rw [List.filter_append, hrest]
  cases habs : p.isAbsolute with
  | true =>
    obtain ⟨second, others, hcons⟩ := isAbsolute_iff.1 habs
    rw [hs] at hcons
    obtain ⟨rfl, rfl⟩ := List.cons.inj hcons
    rfl
  | false =>
    by_cases hdot : first = ['.']
    · subst hdot
      rfl
    · rw [firstComponent?, if_neg Bool.false_ne_true, if_neg hdot, List.filterMap_cons]
      cases hc : innerComponent? first with
      | none => rfl
      | some c => simp [start, hinner hc]

/-! ## Spelling steps -/

/-- The path with these steps, in its shortest writing. -/
def ofSteps (absolute : Bool) (steps : List Component) : LocalPath :=
  match start absolute ++ steps with
  | [] => ⟨"."⟩
  | components => ofComponents components

theorem resolve_eq (root p : LocalPath) :
    root.resolve p = ofSteps (root.join p).isAbsolute (root.join p).steps := by
  rw [resolve, filter_components]
  rfl

/-- The segments in which steps are spelt. -/
def segmentsOf (absolute : Bool) (steps : List Component) : List (List Char) :=
  (if absolute then [[]] else []) ++ steps.map Component.chars

/-- Apart from the two paths without a step, a path is spelt by the segments of its steps. -/
theorem ofSteps_cases (absolute : Bool) {steps : List Component} (h : ∀ c ∈ steps, c.IsStep) :
    (steps = [] ∧ ofSteps absolute steps = if absolute then ⟨"/"⟩ else ⟨"."⟩) ∨
    (steps ≠ [] ∧ (ofSteps absolute steps).text.toList = joinSlash (segmentsOf absolute steps) ∧
      splitSlash (ofSteps absolute steps).text.toList = segmentsOf absolute steps) := by
  cases steps with
  | nil => exact .inl ⟨rfl, by cases absolute <;> rfl⟩
  | cons c steps =>
    have htext : (ofSteps absolute (c :: steps)).text.toList =
        joinSlash (segmentsOf absolute (c :: steps)) := by
      cases absolute with
      | true => exact String.toList_ofList
      | false =>
        cases c with
        | root | here => exact (h _ List.mem_cons_self).elim
        | up | name => exact String.toList_ofList
    refine .inr ⟨List.cons_ne_nil _ _, htext, ?_⟩
    rw [htext]
    refine splitSlash_joinSlash (by simp [segmentsOf]) fun segment hsegment => ?_
    rcases List.mem_append.1 hsegment with hempty | hstep
    · cases absolute with
      | true => simp [List.mem_singleton.1 hempty]
      | false => cases hempty
    · obtain ⟨c, hc, rfl⟩ := List.mem_map.1 hstep
      exact slash_not_mem_chars (h c hc)

theorem filterMap_chars {steps : List Component} (h : ∀ c ∈ steps, c.IsStep) :
    (steps.map Component.chars).filterMap innerComponent? = steps := by
  induction steps with
  | nil => rfl
  | cons c steps ih =>
    rw [List.map_cons, List.filterMap_cons, innerComponent?_chars (h c List.mem_cons_self),
      ih fun d hd => h d (List.mem_cons_of_mem c hd)]

/-- **Steps that are spelt are read back.** -/
theorem steps_ofSteps (absolute : Bool) {steps : List Component} (h : ∀ c ∈ steps, c.IsStep) :
    (ofSteps absolute steps).steps = steps := by
  rcases ofSteps_cases absolute h with ⟨rfl, hpath⟩ | ⟨-, -, hsplit⟩
  · rw [hpath]
    cases absolute <;> rfl
  · rw [LocalPath.steps, hsplit, segmentsOf, List.filterMap_append, filterMap_chars h]
    cases absolute <;> rfl

theorem isAbsolute_ofSteps (absolute : Bool) {steps : List Component} (h : ∀ c ∈ steps, c.IsStep) :
    (ofSteps absolute steps).isAbsolute = absolute := by
  rcases ofSteps_cases absolute h with ⟨rfl, hpath⟩ | ⟨hne, -, hsplit⟩
  · rw [hpath]
    cases absolute <;> rfl
  · obtain ⟨c, steps, rfl⟩ := List.exists_cons_of_ne_nil hne
    rw [Bool.eq_iff_iff, isAbsolute_iff, hsplit]
    cases absolute with
    | true => simp [segmentsOf]
    | false => simp [segmentsOf, chars_ne_nil (h c List.mem_cons_self)]

/-! ## Joining and resolving -/

theorem isAbsolute_join (base p : LocalPath) :
    (base.join p).isAbsolute = (p.isAbsolute || base.isAbsolute) := by
  cases hp : p.isAbsolute with
  | true => simp [join, hp]
  | false =>
    rw [Bool.false_or]
    rcases join_cases base hp with ⟨hb, hj⟩ | ⟨front, hb, hj⟩ | ⟨front, last, hb, -, hj⟩
    · rw [hj, hp]
      simp [isAbsolute, hb]
    · rw [isAbsolute, isAbsolute, hj, hb]
      cases front <;> rfl
    · rw [isAbsolute, isAbsolute, hj, hb]
      cases front <;> rfl

/-- An absolute path brings its own steps alone, and a relative one goes on from the base. -/
theorem steps_join (base p : LocalPath) :
    (base.join p).steps = if p.isAbsolute then p.steps else base.steps ++ p.steps := by
  cases hp : p.isAbsolute with
  | true => simp [join, hp]
  | false =>
    rw [if_neg Bool.false_ne_true]
    rcases join_cases base hp with ⟨hb, hj⟩ | ⟨front, hb, hj⟩ | ⟨front, last, hb, -, hj⟩
    · rw [hj, steps, steps, hb]
      rfl
    · rw [steps, steps, steps, hj, hb, splitSlash_slash, splitSlash_slash]
      simp [splitSlash]
    · rw [steps, steps, steps, hj, splitSlash_slash, List.filterMap_append]

theorem isAbsolute_resolve (root p : LocalPath) :
    (root.resolve p).isAbsolute = (p.isAbsolute || root.isAbsolute) := by
  rw [resolve_eq, isAbsolute_ofSteps _ fun _ => isStep_of_mem_steps, isAbsolute_join]

/-- **Seeing a path from a root keeps every step**, each `..` among them. -/
theorem steps_resolve (root p : LocalPath) :
    (root.resolve p).steps = if p.isAbsolute then p.steps else root.steps ++ p.steps := by
  rw [resolve_eq, steps_ofSteps _ fun _ => isStep_of_mem_steps, steps_join]

/-- What is seen from a root depends on the steps of the joined path alone, and on whether it is
absolute. -/
theorem resolve_congr {root root' p p' : LocalPath}
    (habs : (root.join p).isAbsolute = (root'.join p').isAbsolute)
    (hsteps : (root.join p).steps = (root'.join p').steps) : root.resolve p = root'.resolve p' := by
  rw [resolve_eq, resolve_eq, habs, hsteps]

/-- **Roots act on paths**: to see a path from a root, and what is seen from another one, is to see
the path from the first root as that is seen from the other. -/
theorem resolve_resolve (outer inner p : LocalPath) :
    outer.resolve (inner.resolve p) = (outer.resolve inner).resolve p := by
  apply resolve_congr
  · rw [isAbsolute_join, isAbsolute_join, isAbsolute_resolve, isAbsolute_resolve, Bool.or_assoc]
  · rw [steps_join, steps_join, isAbsolute_resolve, steps_resolve, steps_resolve]
    cases p.isAbsolute <;> cases inner.isAbsolute <;> simp

theorem resolve_here (root p : LocalPath) :
    (⟨"."⟩ : LocalPath).resolve (root.resolve p) = root.resolve p := by
  apply resolve_congr
  · rw [isAbsolute_join, isAbsolute_join, isAbsolute_resolve]
    exact Bool.or_false _
  · rw [steps_join, steps_join, steps_resolve]
    exact ite_self _

theorem resolve_of_isAbsolute {p : LocalPath} (h : p.isAbsolute = true) (root other : LocalPath) :
    root.resolve p = other.resolve p := by
  rw [resolve, resolve, join, join, if_pos h, if_pos h]

/-! ## Normal form -/

/-- A path in its shortest writing. -/
structure IsNormal (p : LocalPath) : Prop where
  ne_empty : p.text ≠ ""
  /-- Nothing is `.` but the path `.` itself. -/
  dot : ['.'] ∈ splitSlash p.text.toList → p.text = "."
  /-- No slash is repeated. -/
  single : ¬ ['/', '/'] <:+: p.text.toList
  /-- Nothing ends with a slash but the root itself. -/
  last : ['/'] <:+ p.text.toList → p.text = "/"

/-- A text whose segments all say something, but for an empty one in front of others, is in normal
form. -/
theorem isNormal_of_segments {p : LocalPath} {absolute : Bool} {segments : List (List Char)}
    (hne : segments ≠ []) (h : ∀ segment ∈ segments, isFiller segment = false)
    (hsplit : splitSlash p.text.toList = (if absolute then [[]] else []) ++ segments) :
    p.IsNormal := by
  have hempty : [] ∉ segments := fun hmem => absurd (h [] hmem) (by decide)
  have hdot : ['.'] ∉ segments := fun hmem => absurd (h ['.'] hmem) (by decide)
  -- only the first segment can be empty, and one slash behind another leaves an empty one behind it
  have htail : [] ∉ (splitSlash p.text.toList).tail := by
    rw [hsplit]
    cases absolute with
    | true => exact hempty
    | false => exact fun hmem => hempty (List.mem_of_mem_tail hmem)
  have hbehind : ∀ front rest, p.text.toList = front ++ '/' :: rest →
      [] ∉ splitSlash rest := by
    intro front rest htext hmem
    rw [htext, splitSlash_slash] at htail
    obtain ⟨first, others, hfront⟩ := List.exists_cons_of_ne_nil (List.splitOn_ne_nil '/' front)
    rw [splitSlash, hfront] at htail
    exact htail (List.mem_append_right _ hmem)
  constructor
  · intro htext
    rw [htext] at hsplit
    cases absolute with
    | true =>
      obtain ⟨first, others, rfl⟩ := List.exists_cons_of_ne_nil hne
      simp [splitSlash] at hsplit
    | false =>
      refine hempty ?_
      rw [if_neg Bool.false_ne_true, List.nil_append] at hsplit
      rw [← hsplit]
      exact List.mem_cons_self
  · intro hmem
    rw [hsplit] at hmem
    rcases List.mem_append.1 hmem with hmem | hmem
    · cases absolute <;> simp at hmem
    · exact absurd hmem hdot
  · rintro ⟨front, rest, htext⟩
    refine hbehind front ('/' :: rest) (by simpa using htext.symm) ?_
    rw [← List.nil_append ('/' :: rest), splitSlash_slash]
    exact List.mem_append_left _ List.mem_cons_self
  · rintro ⟨front, htext⟩
    exact absurd List.mem_cons_self (hbehind front [] htext.symm)

/-- **What is seen from a root is in normal form.** -/
theorem isNormal_resolve (root p : LocalPath) : (root.resolve p).IsNormal := by
  have hsteps : ∀ c ∈ (root.join p).steps, c.IsStep := fun _ => isStep_of_mem_steps
  rw [resolve_eq]
  rcases ofSteps_cases _ hsteps with ⟨-, hpath⟩ | ⟨hne, -, hsplit⟩
  · rw [hpath]
    split
    · exact ⟨by decide, by decide, by decide, fun _ => rfl⟩
    · exact ⟨by decide, fun _ => rfl, by decide, by decide⟩
  · refine isNormal_of_segments (mt List.map_eq_nil_iff.1 hne) ?_ hsplit
    intro segment hsegment
    obtain ⟨c, hc, rfl⟩ := List.mem_map.1 hsegment
    exact isFiller_chars (hsteps c hc)

end LocalPath

end Vendoring

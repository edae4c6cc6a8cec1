import Mathlib.Data.List.Duplicate
import Mathlib.Data.List.TakeWhile
import Vendoring.CommandLine.Read

/-!
# Command lines in any order

Whatever is given on a command line is read as what it is, in whatever order it comes and in either
spelling of a value; what is given twice is refused (`ofWords_in_any_order`).

A parameter whose value is a word of its own is settled only when the next thing begins, and it may
be refused only then. So what has been read up to a point is what was `given` together with what is
still `pending` (`Stands`), and **each further argument either adds itself to that, or is refused
because something was given twice by then** (`readWords_words`).
-/

set_option autoImplicit false

namespace Vendoring.CommandLine

/-- An argument as it is given. -/
inductive Given where
  | cpus
  /-- The value stands apart, as a word of its own, or behind an equals sign. -/
  | parameter (p : Parameter) (value : String) (apart : Bool)
  deriving DecidableEq, Repr

namespace Given

def argument : Given → Argument
  | cpus => .flag .cpus
  | parameter p _ _ => .parameter p

def words : Given → List String
  | cpus => ["--cpus"]
  | parameter p value false => ["--" ++ (Argument.parameter p).name ++ "=" ++ value]
  | parameter p value true => ["--" ++ (Argument.parameter p).name, value]

/-- There is a value, and it stands apart only if it does not start with a hyphen. -/
def IsProper : Given → Prop
  | cpus => True
  | parameter _ value apart => value ≠ "" ∧ (apart = true → value.toList.head? ≠ some '-')

instance : DecidablePred IsProper
  | cpus => inferInstanceAs (Decidable True)
  | parameter _ value apart =>
    inferInstanceAs (Decidable (value ≠ "" ∧ (apart = true → value.toList.head? ≠ some '-')))

/-- What is kept of it. -/
def entry : Given → Argument × String
  | cpus => (.flag .cpus, "true")
  | parameter p value _ => (.parameter p, value)

/-- The value that is given for a parameter. -/
def value? (p : Parameter) : Given → Option String
  | cpus => none
  | parameter q value _ => if q = p then some value else none

theorem map_fst_entry (given : List Given) :
    (given.map entry).map Prod.fst = given.map argument := by
  rw [List.map_map]
  refine List.map_congr_left fun g _ => ?_
  cases g <;> rfl

theorem lookup_cpus (given : List Given) :
    ((given.map entry).lookup (.flag .cpus)).isSome = given.contains .cpus := by
  induction given with
  | nil => rfl
  | cons g given ih =>
    cases g with
    | cpus => rfl
    | parameter p value apart =>
      have hother : (Argument.flag .cpus == .parameter p) = false := beq_false_of_ne nofun
      rw [List.map_cons, entry, List.lookup_cons, hother, List.contains_cons]
      exact ih

theorem lookup_parameter (p : Parameter) (given : List Given) :
    (given.map entry).lookup (.parameter p) = given.findSome? (value? p) := by
  induction given with
  | nil => rfl
  | cons g given ih =>
    cases g with
    | cpus =>
      have hother : (Argument.parameter p == .flag .cpus) = false := beq_false_of_ne nofun
      rw [List.map_cons, entry, List.lookup_cons, hother]
      exact ih
    | parameter q value apart =>
      rw [List.map_cons, entry, List.lookup_cons, List.findSome?_cons, value?]
      by_cases hq : q = p
      · rw [if_pos hq, hq, beq_self_eq_true]
      · have hother : (Argument.parameter p == .parameter q) = false :=
          beq_false_of_ne fun h => hq (Argument.parameter.inj h).symm
        rw [if_neg hq, hother]
        exact ih

end Given

open Given

/-! ## Words -/

theorem splitValue_name {name : List Char} (h : '=' ∉ name) :
    splitValue name = (String.ofList name, none) := by
  have hpass : ∀ c ∈ name, decide (c ≠ '=') = true := fun c hc =>
    decide_eq_true fun heq => h (heq ▸ hc)
  rw [splitValue, List.dropWhile_eq_nil_iff.2 hpass]

theorem splitValue_append {name : List Char} (h : '=' ∉ name) (value : List Char) :
    splitValue (name ++ '=' :: value) = (String.ofList name, some (String.ofList value)) := by
  have hpass : ∀ c ∈ name, decide (c ≠ '=') = true := fun c hc =>
    decide_eq_true fun heq => h (heq ▸ hc)
  rw [splitValue, List.dropWhile_append_of_pos hpass, List.takeWhile_append_of_pos hpass]
  simp

theorem Parameter.mark_not_mem_name (q : Parameter) :
    '=' ∉ (Argument.parameter q).name.toList := by
  cases q <;> decide

theorem Argument.ofName?_name (a : Argument) : Argument.ofName? a.name = some a := by
  cases a with
  | flag f => cases f <;> rfl
  | parameter q => cases q <;> rfl

theorem readWords_cons {p : Progress} {word : String} (h : word ≠ "--") (words : List String) :
    readWords p (word :: words) = readWord p word >>= (readWords · words) := by
  rw [readWords.eq_def]
  dsimp only
  rw [if_neg h]

/-- A word behind two hyphens is a name. -/
theorem readWords_name (p : Progress) {cs : List Char} (h : cs ≠ []) {name : String}
    {value : Option String} (hsplit : splitValue cs = (name, value)) (words : List String) :
    readWords p (("--" ++ String.ofList cs) :: words) =
      readName p name value >>= (readWords · words) := by
  have hchars : ("--" ++ String.ofList cs).toList = '-' :: '-' :: cs := by
    rw [String.toList_append, String.toList_ofList]
    simp
  have hne : "--" ++ String.ofList cs ≠ "--" := by
    intro heq
    have hlist := hchars.symm.trans (congrArg String.toList heq)
    exact h (List.cons.inj (List.cons.inj hlist).2).2
  rw [readWords_cons hne, readWord, hchars]
  show (readName p (splitValue cs).1 (splitValue cs).2 >>= _) = _
  rw [hsplit]

theorem readName_parameter (p : Progress) {name : String} {q : Parameter}
    (h : Argument.ofName? name = some (.parameter q)) (value : Option String) :
    readName p name value = Progress.accept p.settle >>= fun s =>
      match value with
      | none => .ok { s with pending := some (q, none) }
      | some v => Progress.accept (s.take (.parameter q) v) := by
  unfold readName
  rw [h]
  cases value <;> rfl

/-- A word that does not start with a hyphen is the value of what was begun. -/
theorem readWords_value {given : List (Argument × String)} {q : Parameter} {value : String}
    (h : value.toList.head? ≠ some '-') (words : List String) :
    readWords ⟨given, some (q, none)⟩ (value :: words) =
      readWords ⟨given, some (q, some value)⟩ words := by
  have hne : value ≠ "--" := by
    rintro rfl
    exact h rfl
  rw [readWords_cons hne, readWord]
  split
  · next hchars => exact absurd (by rw [hchars]; rfl) h
  · next hchars => exact absurd (by rw [hchars]; rfl) h
  · rfl

/-! ## What has been read -/

/-- What has been read up to here is `done`, of which the last may not have been settled yet. -/
structure Stands (p : Progress) (done : List Given) : Prop where
  entries : p.given ++ (p.pending.elim [] fun begun => [(.parameter begun.1, begun.2.getD "")]) =
    done.map entry
  complete : ∀ begun ∈ p.pending, begun.2.isSome = true
  nodup : p.used.Nodup
  proper : ∀ g ∈ done, g.IsProper

/-- What is kept when everything has been settled. -/
def settled (done : List Given) : Progress := ⟨done.map entry, none⟩

theorem Stands.of_settled {done : List Given} (hnodup : (done.map argument).Nodup)
    (hproper : ∀ g ∈ done, g.IsProper) : Stands (settled done) done where
  entries := List.append_nil _
  complete := nofun
  nodup := by
    rw [Progress.used, settled, map_fst_entry]
    exact hnodup
  proper := hproper

theorem accept_take {p : Progress} {a : Argument} {value : String} (hvalue : value ≠ "") :
    Progress.accept (p.take a value) =
      if a ∈ p.used then .error (.repeated a)
      else .ok { p with given := p.given ++ [(a, value)] } := by
  have hempty : value.isEmpty = false := by
    rw [← Bool.not_eq_true, String.isEmpty_iff]
    exact hvalue
  simp only [Progress.take, List.contains_iff_mem]
  split
  · rfl
  · cases a with
    | flag f => rfl
    | parameter q =>
      show Progress.accept (_, if (q.isPath && value.isEmpty) = true then _ else _) = _
      rw [hempty, Bool.and_false]
      rfl

theorem duplicate_append_singleton {as : List Argument} {a : Argument} (h : a ∈ as) :
    List.Duplicate a (as ++ [a]) := by
  have hcount := List.count_pos_iff.2 h
  rw [List.duplicate_iff_two_le_count, List.count_append, List.count_singleton_self]
  omega

theorem nodup_append_singleton {as : List Argument} {a : Argument} (has : as.Nodup) (h : a ∉ as) :
    (as ++ [a]).Nodup := by
  rw [List.nodup_append]
  refine ⟨has, List.nodup_singleton a, ?_⟩
  rintro b hb c hc rfl
  exact h (List.mem_singleton.1 hc ▸ hb)

/-- **Settling what was begun refuses it exactly if it was given before.** -/
theorem Stands.settle {p : Progress} {done : List Given} (h : Stands p done) :
    ((done.map argument).Nodup ∧ Progress.accept p.settle = .ok (settled done)) ∨
      ∃ a, List.Duplicate a (done.map argument) ∧
        Progress.accept p.settle = .error (.repeated a) := by
  obtain ⟨given, pending⟩ := p
  obtain ⟨hentries, hcomplete, hnodup, hproper⟩ := h
  have hargs := map_fst_entry done
  rw [← hentries] at hargs
  match pending with
  | none =>
    simp only [Option.elim_none, List.append_nil] at hentries hargs
    refine .inl ⟨hargs ▸ hnodup, ?_⟩
    rw [settled, ← hentries]
    rfl
  | some (q, none) => exact absurd (hcomplete _ rfl) nofun
  | some (q, some value) =>
    simp only [Option.elim_some, Option.getD_some, List.map_append, List.map_cons,
      List.map_nil] at hentries hargs
    have hvalue : value ≠ "" := by
      -- what is pending is the last of what was given
      have hmem : (Argument.parameter q, value) ∈ done.map entry := by
        rw [← hentries]
        exact List.mem_append_right _ List.mem_cons_self
      obtain ⟨g, hg, hentry⟩ := List.mem_map.1 hmem
      cases g with
      | cpus => cases hentry
      | parameter q' value' apart =>
        cases hentry
        exact (hproper _ hg).1
    have hsettle : Progress.accept (Progress.settle ⟨given, some (q, some value)⟩) =
        Progress.accept (Progress.take ⟨given, none⟩ (.parameter q) value) := rfl
    have hused : Progress.used ⟨given, none⟩ = given.map Prod.fst := rfl
    rw [hsettle, accept_take hvalue, hused, ← hargs]
    by_cases hmem : Argument.parameter q ∈ given.map Prod.fst
    · exact .inr ⟨_, duplicate_append_singleton hmem, if_pos hmem⟩
    · refine .inl ⟨nodup_append_singleton hnodup hmem, ?_⟩
      rw [if_neg hmem, settled, ← hentries]

/-! ## One more argument -/

/-- What becomes of an argument when all before it has been settled. -/
def Given.taken (p : Progress) : Given → Except Refusal Progress
  | cpus => Progress.accept (p.take (.flag .cpus) "true")
  | parameter q value false => Progress.accept (p.take (.parameter q) value)
  | parameter q value true => .ok { p with pending := some (q, some value) }

/-- Every argument begins with a name, which settles what was begun before it. -/
theorem readWords_words (p : Progress) {g : Given} (hg : g.IsProper) (words : List String) :
    readWords p (g.words ++ words) =
      (Progress.accept p.settle >>= g.taken) >>= (readWords · words) := by
  match g with
  | .cpus =>
    have hsplit : splitValue "cpus".toList = ("cpus", none) := by decide
    have hread := readWords_name p (by decide) hsplit words
    rw [String.ofList_toList] at hread
    exact hread
  | .parameter q value apart =>
    have hne : (Argument.parameter q).name.toList ≠ [] := by cases q <;> decide
    have hname := Argument.ofName?_name (.parameter q)
    cases apart with
    | false =>
      have hword : "--" ++ (Argument.parameter q).name ++ "=" ++ value =
          "--" ++ String.ofList ((Argument.parameter q).name.toList ++ '=' :: value.toList) := by
        apply String.toList_injective
        simp
      have hsplit := splitValue_append q.mark_not_mem_name value.toList
      rw [String.ofList_toList, String.ofList_toList] at hsplit
      rw [Given.words, List.singleton_append, hword, readWords_name p (by simp) hsplit,
        readName_parameter p hname]
      rfl
    | true =>
      have hsplit := splitValue_name q.mark_not_mem_name
      rw [String.ofList_toList] at hsplit
      have hread := readWords_name p hne hsplit (value :: words)
      rw [String.ofList_toList] at hread
      rw [Given.words, List.cons_append, List.singleton_append, hread, readName_parameter p hname]
      cases Progress.accept p.settle with
      | error refusal => rfl
      | ok s => exact readWords_value (hg.2 rfl) words

/-- **An argument adds itself to what has been settled, unless it was given before.** -/
theorem taken_settled {done : List Given} {g : Given} (hnodup : (done.map argument).Nodup)
    (hproper : ∀ g' ∈ done ++ [g], g'.IsProper) :
    (∃ p, Stands p (done ++ [g]) ∧ g.taken (settled done) = .ok p) ∨
      ∃ a, List.Duplicate a ((done ++ [g]).map argument) ∧
        g.taken (settled done) = .error (.repeated a) := by
  have hused : (settled done).used = done.map argument := map_fst_entry done
  have hg := hproper g (List.mem_append_right _ List.mem_cons_self)
  have htake : ∀ value, g.entry = (g.argument, value) → value ≠ "" →
      (∃ p, Stands p (done ++ [g]) ∧
        Progress.accept ((settled done).take g.argument value) = .ok p) ∨
      ∃ a, List.Duplicate a ((done ++ [g]).map argument) ∧
        Progress.accept ((settled done).take g.argument value) = .error (.repeated a) := by
    intro value hentry hvalue
    rw [accept_take hvalue, hused, List.map_append, List.map_singleton]
    by_cases hmem : g.argument ∈ done.map argument
    · exact .inr ⟨_, duplicate_append_singleton hmem, if_pos hmem⟩
    · refine .inl ⟨settled (done ++ [g]), Stands.of_settled ?_ hproper, ?_⟩
      · rw [List.map_append, List.map_singleton]
        exact nodup_append_singleton hnodup hmem
      · rw [if_neg hmem, settled, settled, List.map_append, List.map_singleton, hentry]
  match g with
  | .cpus => exact htake "true" rfl (by decide)
  | .parameter q value false => exact htake value rfl hg.1
  | .parameter q value true =>
    -- it is not settled before something else begins
    refine .inl ⟨_, ⟨?_, ?_, ?_, hproper⟩, rfl⟩
    · rw [List.map_append, List.map_singleton]
      rfl
    · rintro begun ⟨⟩
      rfl
    · rw [← hused] at hnodup
      exact hnodup

/-- **What has been read goes on to be what was given, or something was given twice.** -/
theorem Stands.readWords {given : List Given} : ∀ {p : Progress} {done : List Given},
    Stands p done → (∀ g ∈ given, g.IsProper) →
    (((done ++ given).map argument).Nodup ∧
      readWords p (given.flatMap words) = .ok (settled (done ++ given))) ∨
    ∃ a, List.Duplicate a ((done ++ given).map argument) ∧
      readWords p (given.flatMap words) = .error (.repeated a) := by
  induction given with
  | nil =>
    intro p done h _
    rw [List.append_nil]
    exact h.settle
  | cons g given ih =>
    intro p done h hgiven
    have hread := readWords_words p (hgiven g List.mem_cons_self) (given.flatMap words)
    have hmore : ((done ++ [g]).map argument).Sublist ((done ++ g :: given).map argument) := by
      have hall : done ++ g :: given = done ++ [g] ++ given := List.append_cons done g given
      rw [hall]
      exact (List.sublist_append_left _ given).map argument
    rw [List.flatMap_cons, hread]
    rcases h.settle with ⟨hnodup, hsettle⟩ | ⟨a, ha, hsettle⟩ <;> rw [hsettle]
    · have hproper : ∀ g' ∈ done ++ [g], g'.IsProper := by
        intro g' hg'
        rcases List.mem_append.1 hg' with hg' | hg'
        · exact h.proper g' hg'
        · exact List.mem_singleton.1 hg' ▸ hgiven g List.mem_cons_self
      rcases taken_settled hnodup hproper with ⟨p', hp', htaken⟩ | ⟨a, ha, htaken⟩
      · have hrest := ih hp' fun g' hg' => hgiven g' (List.mem_cons_of_mem g hg')
        rw [List.append_assoc, List.singleton_append] at hrest
        show (_ ∧ (g.taken (settled done) >>= _) = _) ∨ ∃ a, _ ∧ (g.taken (settled done) >>= _) = _
        rw [htaken]
        exact hrest
      · refine .inr ⟨a, ha.mono_sublist hmore, ?_⟩
        show (g.taken (settled done) >>= _) = _
        rw [htaken]
        rfl
    · refine .inr ⟨a, ha.mono_sublist ?_, rfl⟩
      exact ((List.sublist_append_left done _).map argument)

/-- **A command line means the same in any order.** For every token in the environment and all
arguments in any order, each value behind an equals sign or, if it does not start with a hyphen,
standing apart: if nothing is given twice, what is read is just what is given, with the token of the
environment and the current directory standing in for a token and a root that are not; and if
something is given twice, the command line is refused for one of those. -/
theorem ofWords_in_any_order (environmentToken : Option String) (given : List Given)
    (hgiven : ∀ g ∈ given, g.IsProper) :
    ((given.map argument).Nodup → ofWords environmentToken (given.flatMap words) = .ok {
      cpus := given.contains .cpus
      token := given.findSome? (value? .token) <|> environmentToken
      config := (given.findSome? (value? .config)).map LocalPath.mk
      root := ⟨(given.findSome? (value? .root)).getD "."⟩ }) ∧
    (¬ (given.map argument).Nodup → ∃ a, List.Duplicate a (given.map argument) ∧
      ofWords environmentToken (given.flatMap words) = .error (.repeated a)) := by
  have hstart : Stands .empty [] := ⟨rfl, nofun, List.nodup_nil, nofun⟩
  have hread := hstart.readWords hgiven
  rw [List.nil_append] at hread
  rcases hread with ⟨hnodup, hread⟩ | ⟨a, ha, hread⟩
  · refine ⟨fun _ => ?_, fun hnot => absurd hnodup hnot⟩
    rw [ofWords, hread, ← lookup_cpus, ← lookup_parameter, ← lookup_parameter, ← lookup_parameter]
    rfl
  · refine ⟨fun hnodup => absurd hnodup (List.exists_duplicate_iff_not_nodup.1 ⟨a, ha⟩), ?_⟩
    intro _
    rw [ofWords, hread]
    exact ⟨a, ha, rfl⟩

/-- Values that look like names, hold an equals sign, a blank or a hyphen in front; and a root that
is given in both spellings. -/
theorem ofWords_in_any_order_misleading :
    let given : List Given :=
      [.parameter .root "cpus" true, .cpus, .parameter .config "--root=a b" false]
    let rooted : Given := .parameter .root "root=/" false
    (∀ g ∈ rooted :: given, g.IsProper) ∧
      given.flatMap words = ["--root", "cpus", "--cpus", "--config=--root=a b"] ∧
      ofWords (some "secret") (given.flatMap words) =
        .ok ⟨true, some "secret", some ⟨"--root=a b"⟩, ⟨"cpus"⟩⟩ ∧
      ∃ a, ofWords none ((rooted :: given).flatMap words) = .error (.repeated a) := by
  intro given rooted
  have hproper : ∀ g ∈ rooted :: given, g.IsProper := by decide
  have hread := (ofWords_in_any_order (some "secret") given fun g hg =>
    hproper g (List.mem_cons_of_mem _ hg)).1 (by decide)
  obtain ⟨a, -, hrefused⟩ := (ofWords_in_any_order none (rooted :: given) hproper).2 (by decide)
  exact ⟨hproper, by decide +kernel, hread, a, hrefused⟩

end Vendoring.CommandLine

import Vendoring.Client
import Vendoring.Proofs.Json.Skip
import Vendoring.Proofs.Listing.Entry

/-!
# What is read as a listing

A reader for a part of a listing takes exactly the values that are such a part, and refuses all
others: a kind (`reads_kindValue`), a member or a list value (`reads_readField`), an entry
(`reads_readEntry`). Members that nobody asks for are passed over. A fault in the last entry refuses
the listing as much as one in the first. So **a body is read exactly if it is a list of entries, and
then as these entries** (`parseListing_compact`).
-/

set_option autoImplicit false

namespace Vendoring.Listing

open Json Json.Reader

/-! ## Kinds -/

/-- Behind a tag and its `null`, only the end of the object may follow. -/
theorem reads_kindValue_members {tag : String} {w : Value} (hw : w.Integral)
    (more : List (String × Value)) (rest : List Char) :
    Reads kindValue ((Value.object ((tag, w) :: more)).chars ++ rest)
      ((kind? (.object ((tag, w) :: more))).map fun kind => (kind, rest)) := by
  have htag := reads_text tag (':' :: (w.chars ++ (memberChars false more ++ '\x7d' :: rest)))
  have hnull := reads_nullValue hw (memberChars false more ++ '\x7d' :: rest)
  rw [chars_object_append, memberChars_cons_append, if_pos rfl, List.nil_append]
  rw [textChars_append] at htag ⊢
  refine .bind (reads_peekSolid (by decide) _) (.bind (reads_advance '\x7b' _) ?_)
  refine .bind (reads_peekSolid (c := '"') (by decide) _) (.bind htag (.bind (reads_colon _) ?_))
  cases w with
  | null =>
    refine .bind hnull ?_
    -- What comes next is the end of the object or the comma in front of another member.
    cases more with
    | nil =>
      refine .bind (reads_peekSolid (c := '\x7d') (by decide) rest) ?_
      exact .bind (reads_advance '\x7d' rest) (.pure _ rest)
    | cons m ms =>
      rw [memberChars_cons_append]
      refine .bind (reads_peekSolid (c := ',') (by decide) _) ?_
      exact (refuses_failHere _).reads _
  | _ => exact hnull.bind_none

/-- **A kind is read exactly from the values that are kinds.** -/
theorem reads_kindValue {v : Value} (h : v.Integral) (rest : List Char) :
    Reads kindValue (v.chars ++ rest) ((kind? v).map fun kind => (kind, rest)) := by
  obtain ⟨c, cs, hchars, hleads⟩ := h.exists_leads
  by_cases htext : ∃ tag, v = .text tag
  · obtain ⟨tag, rfl⟩ := htext
    have htag : Reads text (textChars tag ++ rest) ((some tag).map fun s => (s, rest)) :=
      reads_text tag rest
    rw [textChars_append] at htag
    rw [Value.chars, textChars_append]
    exact .bind (reads_peekSolid (by decide) _) htag.map
  by_cases hobject : ∃ members, v = .object members
  · obtain ⟨members, rfl⟩ := hobject
    cases members with
    | nil =>
      rw [chars_object_append]
      refine .bind (reads_peekSolid (by decide) _) (.bind (reads_advance '\x7b' _) ?_)
      refine .bind (reads_peekSolid (c := '\x7d') (by decide) rest) ?_
      exact (refuses_failNext _).reads _
    | cons m more =>
      cases h with
      | object hmembers => exact reads_kindValue_members (hmembers m List.mem_cons_self) more rest
  · have hnone : kind? v = none := by
      cases v with
      | text tag => exact absurd ⟨tag, rfl⟩ htext
      | object members => exact absurd ⟨members, rfl⟩ hobject
      | _ => rfl
    rw [hnone, hchars]
    refine .bind (reads_peekSolid hleads.solid _) ?_
    split
    · contradiction
    · next hquote =>
      cases hquote
      exact absurd (hleads.text.1 rfl) htext
    · next hbrace =>
      cases hbrace
      exact absurd (hleads.object.1 rfl) hobject
    · exact (refuses_failNext _).reads _

/-! ## Members -/

theorem reads_readField (d : Draft) (field : Field) {v : Value} (h : v.Integral)
    (rest : List Char) :
    Reads (readField d field) (v.chars ++ rest) ((setField? d field v).map fun d => (d, rest)) := by
  cases field with
  | name => exact (reads_textValue h rest).bind_pure
  | path => exact (reads_textValue h rest).bind_pure
  | kind => exact (reads_kindValue h rest).bind_pure
  | downloadUrl => exact (reads_optionalTextValue h rest).bind_pure
  | listingUrl => exact (reads_textValue h rest).bind_pure

/-- The reader takes the value off the characters, or refuses the text, or takes a refusal of the
entry. -/
def Answers {α : Type} (r : Reader (Except Cause α)) (cs rest : List Char) : Option α → Prop
  | some a => Reads r cs (some (.ok a, rest))
  | none => Reads r cs none ∨ ∃ cause left, Reads r cs (some (.error cause, left))

section Answers

variable {α β : Type} {r : Reader α} {f : α → Reader (Except Cause β)} {cs left rest : List Char}

theorem Answers.bind {a : α} {b? : Option β} (h : Reads r cs (some (a, left)))
    (hf : Answers (f a) left rest b?) : Answers (r >>= f) cs rest b? := by
  cases b? with
  | some b => exact h.bind hf
  | none =>
    rcases hf with hf | ⟨cause, others, hf⟩
    · exact .inl (h.bind hf)
    · exact .inr ⟨cause, others, h.bind hf⟩

theorem Answers.bind_option {a? : Option α} {g : α → Option β}
    (h : Reads r cs (a?.map fun a => (a, left))) (hf : ∀ a, Answers (f a) left rest (g a)) :
    Answers (r >>= f) cs rest (a?.bind g) := by
  cases a? with
  | some a => exact .bind h (hf a)
  | none => exact .inl h.bind_none

end Answers

/-- **Members are read one by one into the draft.** -/
theorem answers_readMembers {members : List (String × Value)}
    (h : ∀ m ∈ members, m.2.Integral) {bound : Nat} (hbound : members.length < bound)
    (first : Bool) (d : Draft) (rest : List Char) :
    Answers (readMembers bound first d) (memberChars first members ++ '\x7d' :: rest)
      ('\x7d' :: rest) (members.foldlM addMember? d) := by
  induction members generalizing bound first d with
  | nil =>
    obtain ⟨bound, rfl⟩ := Nat.exists_eq_add_one_of_ne_zero (Nat.ne_zero_of_lt hbound)
    exact .bind (reads_hasMember_close first rest) (Reads.pure _ _)
  | cons m members ih =>
    obtain ⟨bound, rfl⟩ := Nat.exists_eq_add_one_of_ne_zero (Nat.ne_zero_of_lt hbound)
    obtain ⟨hm, h⟩ := List.forall_mem_cons.1 h
    have hbound : members.length < bound := by simpa using hbound
    have ih := ih h hbound false
    rw [memberChars_cons_append, List.foldlM_cons]
    refine .bind (reads_hasMember m.1 first _) (.bind (reads_text m.1 _) ?_)
    split
    · next hkey =>
      have hadd : addMember? d m = some d := by simp only [addMember?, hkey]
      rw [hadd]
      refine .bind (reads_colon _) ?_
      exact .bind (reads_skipValue hm (endsValue_memberChars members rest)) (ih d)
    · next field hkey =>
      have hadd : addMember? d m = if d.has field then none else setField? d field m.2 := by
        simp only [addMember?, hkey]
      rw [hadd]
      split
      · exact Or.inr ⟨_, _, .pure _ _⟩
      · exact .bind (reads_colon _) (.bind_option (reads_readField d field hm _) ih)

theorem refuses_failBehind {α : Type} (frame : Frame) (cause : Cause) :
    Refuses (failBehind frame cause : Reader α) := by
  refine .bind fun next => ?_
  dsimp only
  split
  · exact .bind fun _ => refuses_failHere cause
  · exact refuses_failHere cause

/-- **An object is read as the entry that it is.** -/
theorem reads_readEntry_object {members : List (String × Value)}
    (h : ∀ m ∈ members, m.2.Integral) (rest : List Char) :
    Reads readEntry ((Value.object members).chars ++ rest)
      ((entryOfMembers? members).map fun entry => (entry, rest)) := by
  have hbound : members.length < (memberChars true members ++ '\x7d' :: rest).length + 1 := by
    have := length_le_memberChars true members
    rw [List.length_append]
    omega
  have hmembers := answers_readMembers h hbound true .empty rest
  rw [← entryOfMembers?_eq, chars_object_append]
  refine .bind (reads_peekSolid (by decide) _) (.bind (reads_advance '\x7b' _) ?_)
  refine Reads.withLength (f := fun n => readMembers (n + 1) true .empty >>= _) ?_
  cases hdraft : members.foldlM addMember? .empty with
  | none =>
    -- A member twice does not end the reading of members, but the entry is refused behind it.
    rw [hdraft] at hmembers
    rcases hmembers with hmembers | ⟨cause, left, hmembers⟩
    · exact hmembers.bind_none
    · exact .bind hmembers ((refuses_failBehind .object cause).reads left)
  | some d =>
    rw [hdraft] at hmembers
    have hentry : Except.bind (.ok d) Draft.entry = d.entry := rfl
    refine .bind hmembers ?_
    rw [Option.bind_some, hentry]
    cases d.entry with
    | error cause => exact (refuses_failBehind .object cause).reads _
    | ok entry => exact .bind (reads_advance '\x7d' rest) (.pure entry rest)

/-! ## Lists of values -/

theorem reads_readValues {fields : List Field} (hlast : fields.getLast? ≠ some .downloadUrl)
    {vs : List Value} (hvs : ∀ v ∈ vs, v.Integral) (index : Nat) (d : Draft) (rest : List Char) :
    Reads (readValues index fields d) (elementChars (index == 0) vs ++ ']' :: rest)
      ((takeFields? fields d vs).map fun x =>
        (x.1, elementChars (index + fields.length == 0) x.2 ++ ']' :: rest)) := by
  induction fields generalizing index d vs with
  | nil => exact .pure d _
  | cons field fields ih =>
    cases vs with
    | nil =>
      refine .bind (reads_hasElement_close _ rest) ?_
      rw [if_neg Bool.false_ne_true]
      split
      · next hfield =>
        -- What is left out is not the last value, so the end comes too early for another one.
        cases fields with
        | nil => exact absurd (congrArg some hfield) hlast
        | cons next fields => exact ih hlast (List.forall_mem_nil _) (index + 1) d
      · exact (refuses_failBehind _ _).reads _
    | cons v vs =>
      obtain ⟨hv, hvs⟩ := List.forall_mem_cons.1 hvs
      have hlast : fields.getLast? ≠ some .downloadUrl := by
        cases fields with
        | nil => exact nofun
        | cons next fields => exact hlast
      have hlength : index + (field :: fields).length = index + 1 + fields.length := by
        rw [List.length_cons]
        omega
      rw [elementChars_cons_append, hlength]
      refine .bind (reads_hasElement hv _ _) ?_
      rw [if_pos rfl, takeFields?, Option.map_bind]
      exact .bind_option (reads_readField d field hv _) fun d => ih hlast hvs (index + 1) d

theorem reads_endList_close (rest : List Char) :
    Reads endList (']' :: rest) (some ((), rest)) :=
  .bind (reads_peekSolid (by decide) rest) (reads_advance ']' rest)

theorem reads_endList_comma (rest : List Char) : Reads endList (',' :: rest) none := by
  refine .bind (reads_peekSolid (by decide) rest) (.bind (reads_advance ',' rest) ?_)
  refine Refuses.reads (.bind fun next => ?_) rest
  split
  · exact refuses_failNext _
  · exact refuses_failNext _

/-- **A list is read as the entry that it is.** -/
theorem reads_readEntry_list {elements : List Value} (h : ∀ v ∈ elements, v.Integral)
    (rest : List Char) :
    Reads readEntry ((Value.list elements).chars ++ rest)
      ((entryOfElements? elements).map fun entry => (entry, rest)) := by
  have hlast : Field.all.getLast? ≠ some .downloadUrl := by decide
  have hvalues := reads_readValues hlast h 0 .empty rest
  rw [← entryOfElements?_eq, chars_list_append]
  refine .bind (reads_peekSolid (by decide) _) (.bind (reads_advance '[' _) ?_)
  cases htaken : takeFields? Field.all .empty elements with
  | none =>
    rw [htaken] at hvalues
    exact hvalues.bind_none
  | some x =>
    obtain ⟨d, left⟩ := x
    rw [htaken] at hvalues
    refine .bind hvalues ?_
    cases left with
    | nil =>
      refine .bind (reads_endList_close rest) ?_
      dsimp only [Option.bind_some, List.isEmpty_nil]
      rw [if_pos rfl]
      cases d.entry with
      | error cause => exact (refuses_failHere cause).reads _
      | ok entry => exact .pure entry rest
    | cons v vs =>
      have hcomma : elementChars (0 + Field.all.length == 0) (v :: vs) ++ ']' :: rest =
          ',' :: (v.chars ++ (elementChars false vs ++ ']' :: rest)) :=
        elementChars_cons_append false v vs (']' :: rest)
      dsimp only
      rw [hcomma]
      exact (reads_endList_comma _).bind_none

/-- **An entry is read exactly from the values that are entries.** -/
theorem reads_readEntry {v : Value} (h : v.Integral) (rest : List Char) :
    Reads readEntry (v.chars ++ rest) ((entryOfValue? v).map fun entry => (entry, rest)) := by
  obtain ⟨c, cs, hchars, hleads⟩ := h.exists_leads
  by_cases hobject : ∃ members, v = .object members
  · obtain ⟨members, rfl⟩ := hobject
    cases h with
    | object hmembers => exact reads_readEntry_object hmembers rest
  by_cases hlist : ∃ elements, v = .list elements
  · obtain ⟨elements, rfl⟩ := hlist
    cases h with
    | list helements => exact reads_readEntry_list helements rest
  · have hnone : entryOfValue? v = none := by
      cases v with
      | object members => exact absurd ⟨members, rfl⟩ hobject
      | list elements => exact absurd ⟨elements, rfl⟩ hlist
      | _ => rfl
    rw [hnone, hchars]
    refine .bind (reads_peekSolid hleads.solid _) ?_
    split
    · contradiction
    · next hbrace =>
      cases hbrace
      exact absurd (hleads.object.1 rfl) hobject
    · next hbracket =>
      cases hbracket
      exact absurd (hleads.list.1 rfl) hlist
    · exact (refuses_refuseValue _).reads _

/-! ## Listings -/

/-- The entries that a value lists. -/
def entries? : Value → Option (List Entry)
  | .list elements => elements.mapM entryOfValue?
  | _ => none

theorem reads_readEntries {vs : List Value} (h : ∀ v ∈ vs, v.Integral) {bound : Nat}
    (hbound : vs.length < bound) (first : Bool) (rest : List Char) :
    Reads (readEntries bound first) (elementChars first vs ++ ']' :: rest)
      ((vs.mapM entryOfValue?).map fun entries => (entries, ']' :: rest)) := by
  induction vs generalizing bound first with
  | nil =>
    obtain ⟨bound, rfl⟩ := Nat.exists_eq_add_one_of_ne_zero (Nat.ne_zero_of_lt hbound)
    exact .bind (reads_hasElement_close first rest) (.pure [] _)
  | cons v vs ih =>
    obtain ⟨bound, rfl⟩ := Nat.exists_eq_add_one_of_ne_zero (Nat.ne_zero_of_lt hbound)
    obtain ⟨hv, h⟩ := List.forall_mem_cons.1 h
    have hbound : vs.length < bound := by simpa using hbound
    have ih := ih h hbound false
    rw [elementChars_cons_append, List.mapM_cons]
    refine .bind (reads_hasElement hv first _) ?_
    rw [if_pos rfl]
    show Reads _ _ (((entryOfValue? v).bind fun entry => (vs.mapM entryOfValue?).bind fun entries =>
      some (entry :: entries)).map fun entries => (entries, ']' :: rest))
    rw [Option.map_bind]
    refine .bind_option (reads_readEntry hv _) fun entry => ?_
    have hmore := ih.bind_pure (g := fun entries => entry :: entries)
    rwa [Option.map_eq_bind (f := fun entries => entry :: entries)] at hmore

/-- **A listing is read exactly from the values that are lists of entries.** -/
theorem reads_readListing {v : Value} (h : v.Integral) :
    Reads readListing v.chars ((entries? v).map fun entries => (entries, [])) := by
  obtain ⟨c, cs, hchars, hleads⟩ := h.exists_leads
  by_cases hlist : ∃ elements, v = .list elements
  · obtain ⟨elements, rfl⟩ := hlist
    cases h with
    | list helements =>
      have hbound : elements.length < (elementChars true elements ++ [']']).length + 1 := by
        have := length_le_elementChars helements true
        rw [List.length_append]
        omega
      rw [← List.append_nil (Value.chars _), chars_list_append]
      refine .bind (reads_peekSolid (by decide) _) (.bind (reads_advance '[' _) ?_)
      refine Reads.withLength (f := fun n => readEntries (n + 1) true >>= _) ?_
      have hentries := reads_readEntries helements hbound true []
      show Reads _ _ ((elements.mapM entryOfValue?).map fun entries => (entries, []))
      cases hmapped : elements.mapM entryOfValue? with
      | none =>
        rw [hmapped] at hentries
        exact hentries.bind_none
      | some entries =>
        rw [hmapped] at hentries
        refine .bind hentries (.bind (reads_advance ']' []) ?_)
        exact .bind reads_peekSolid_nil (.pure entries [])
  · have hnone : entries? v = none := by
      cases v with
      | list elements => exact absurd ⟨elements, rfl⟩ hlist
      | _ => rfl
    rw [hnone, hchars]
    refine .bind (reads_peekSolid hleads.solid _) ?_
    split
    · contradiction
    · next hbracket =>
      cases hbracket
      exact absurd (hleads.list.1 rfl) hlist
    · exact (refuses_refuseValue _).reads _

theorem ofBytes_compact {v : Value} (h : v.Integral) :
    match entries? v with
    | some entries => ofBytes v.compact.toUTF8 = .ok entries
    | none => ∃ fault, ofBytes v.compact.toUTF8 = .error fault := by
  have hcursor : Cursor.ofBytes v.compact.toUTF8 = ⟨.start, v.chars.map .char⟩ := by
    rw [Cursor.ofBytes, glyphs_toUTF8, Value.compact, String.toList_ofList]
  have hread := reads_readListing h .start
  rw [← hcursor] at hread
  have hbytes : ofBytes v.compact.toUTF8 =
      (readListing (.ofBytes v.compact.toUTF8)).map Prod.fst := rfl
  cases hentries : entries? v with
  | none =>
    rw [hentries] at hread
    obtain ⟨fault, hfault⟩ := hread
    refine ⟨fault, ?_⟩
    rw [hbytes, hfault]
    rfl
  | some entries =>
    rw [hentries] at hread
    obtain ⟨q, hq⟩ := hread
    dsimp only
    rw [hbytes, hq]
    rfl

end Vendoring.Listing

namespace Vendoring

open Json Listing

/-- **A body is a listing exactly if it is a list of entries**, and then it is read as these
entries. Any other body is refused as a whole. -/
theorem parseListing_compact {σ : Type} (url : String) {v : Value} (h : v.Integral) (world : σ) :
    (∀ entries, parseListing url v.compact.toUTF8 world = (.ok entries, world) ↔
      entries? v = some entries) ∧
    (entries? v = none → ∃ cause,
      parseListing url v.compact.toUTF8 world = (.error (.listing url cause), world)) := by
  have hbytes := ofBytes_compact h
  cases hentries : entries? v with
  | none =>
    rw [hentries] at hbytes
    obtain ⟨fault, hfault⟩ := hbytes
    have hrun : parseListing url v.compact.toUTF8 world = (.error (.listing url fault), world) := by
      rw [parseListing, hfault]
      rfl
    rw [hrun]
    exact ⟨fun entries => ⟨nofun, nofun⟩, fun _ => ⟨fault, rfl⟩⟩
  | some entries =>
    rw [hentries] at hbytes
    have hrun : parseListing url v.compact.toUTF8 world = (.ok entries, world) := by
      rw [parseListing, hbytes]
      rfl
    rw [hrun]
    refine ⟨fun others => ⟨fun h => ?_, fun h => ?_⟩, nofun⟩
    · rw [Except.ok.inj (Prod.mk.inj h).1]
    · rw [Option.some.inj h]

/-- A directory as an object with a member that nobody asks for, and a file as a list. -/
def mixedListing : Value :=
  .list [
    .object [("type", .object [("dir", .null)]), ("size", .list [.integer (-1), .object []]),
      ("path", .text "src/lib"), ("name", .text "lib"), ("url", .text "u/lib")],
    .list [.text "a.c", .text "src/a.c", .text "file", .text "d/a.c", .text "u/a.c"]]

theorem mixedListing_integral : mixedListing.Integral := by
  have hkind : Value.Integral (.object [("dir", .null)]) :=
    .object (List.forall_mem_singleton.2 .null)
  have hsize : Value.Integral (.list [.integer (-1), .object []]) :=
    .list (List.forall_mem_cons.2 ⟨.integer _, List.forall_mem_singleton.2 (.object nofun)⟩)
  refine .list (List.forall_mem_cons.2 ⟨.object ?_, List.forall_mem_singleton.2 (.list ?_)⟩)
  · simp only [List.forall_mem_cons]
    exact ⟨hkind, hsize, .text _, .text _, .text _, nofun⟩
  · simp only [List.forall_mem_cons]
    exact ⟨.text _, .text _, .text _, .text _, .text _, nofun⟩

/-- Members in any order, and either form of an entry, are read. -/
theorem parseListing_compact_mixed :
    mixedListing.Integral ∧
    parseListing "u" mixedListing.compact.toUTF8 () =
      (.ok [⟨"lib", "src/lib", .directory, none, "u/lib"⟩,
        ⟨"a.c", "src/a.c", .file, some "d/a.c", "u/a.c"⟩], ()) :=
  ⟨mixedListing_integral,
    ((parseListing_compact "u" mixedListing_integral ()).1 _).2 (by decide +kernel)⟩

end Vendoring

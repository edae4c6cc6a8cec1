import Vendoring.Json.Value

/-!
# What readers make of characters

Where a text is refused depends on the place a reader has come to, but what is taken off a text does
not. So a reader is described by **the value that it takes off some characters and the characters
that it leaves, or by nothing if it refuses them** (`Reads`), wherever these characters stand. Such
descriptions are put together as the readers are.
-/

set_option autoImplicit false

namespace Vendoring.Json.Reader

variable {α β : Type}

/-- A value and the characters that are left, or a refusal, in either case at any place. -/
def IsOutcome (x : Except Fault (α × Cursor)) : Option (α × List Char) → Prop
  | some (a, rest) => ∃ q, x = .ok (a, ⟨q, rest.map .char⟩)
  | none => ∃ fault, x = .error fault

/-- At any place, the reader takes the value off the characters and leaves the others, or refuses
the text if there is no such result. -/
def Reads (r : Reader α) (cs : List Char) (result : Option (α × List Char)) : Prop :=
  ∀ p, IsOutcome (r ⟨p, cs.map .char⟩) result

/-- The reader refuses every text. -/
def Refuses (r : Reader α) : Prop := ∀ c, ∃ fault, r c = .error fault

/-! ## Readers put together -/

section Bind

variable {r : Reader α} {f : α → Reader β} {cs rest : List Char} {a : α}

theorem bind_of_ok {c c' : Cursor} (h : r c = .ok (a, c')) : (r >>= f) c = f a c' := by
  show (r c >>= fun x => f x.1 x.2) = _
  rw [h]
  rfl

theorem bind_of_error {c : Cursor} {fault : Fault} (h : r c = .error fault) :
    (r >>= f) c = .error fault := by
  show (r c >>= fun x => f x.1 x.2) = _
  rw [h]
  rfl

theorem Reads.pure (a : α) (cs : List Char) : Reads (pure a) cs (some (a, cs)) := fun p => ⟨p, rfl⟩

theorem Reads.bind {result : Option (β × List Char)} (h : Reads r cs (some (a, rest)))
    (hf : Reads (f a) rest result) : Reads (r >>= f) cs result := by
  intro p
  obtain ⟨q, hq⟩ := h p
  rw [bind_of_ok hq]
  exact hf q

theorem Reads.bind_none (h : Reads r cs none) : Reads (r >>= f) cs none := by
  intro p
  obtain ⟨fault, hfault⟩ := h p
  exact ⟨fault, bind_of_error hfault⟩

theorem Reads.bind_option {a? : Option α} {g : α → Option (β × List Char)}
    (h : Reads r cs (a?.map fun a => (a, rest))) (hf : ∀ a, Reads (f a) rest (g a)) :
    Reads (r >>= f) cs (a?.bind g) := by
  cases a? with
  | none => exact h.bind_none
  | some a => exact h.bind (hf a)

theorem Reads.bind_pure {g : α → β} {a? : Option α} (h : Reads r cs (a?.map fun a => (a, rest))) :
    Reads (r >>= fun a => Pure.pure (g a)) cs ((a?.map g).map fun b => (b, rest)) := by
  cases a? with
  | none => exact h.bind_none
  | some a => exact h.bind (.pure _ _)

theorem Reads.map {g : α → β} {a? : Option α} (h : Reads r cs (a?.map fun a => (a, rest))) :
    Reads (g <$> r) cs ((a?.map g).map fun b => (b, rest)) := by
  rw [← bind_pure_comp]
  exact h.bind_pure

/-- A reader that looks where it is. -/
theorem Reads.get_bind {f : Cursor → Reader β} {result : Option (β × List Char)}
    (h : ∀ c, Reads (f c) cs result) : Reads (get >>= f) cs result :=
  fun p => h _ p

/-- A reader that is made for the number of glyphs that are left. -/
theorem Reads.withLength {f : Nat → Reader β} {result : Option (β × List Char)}
    (h : Reads (f cs.length) cs result) :
    Reads (do let c ← get; f c.rest.length) cs result := by
  intro p
  have hlength : (cs.map Glyph.char).length = cs.length := List.length_map _
  have hrun : (do let c ← get; f c.rest.length : Reader β) ⟨p, cs.map .char⟩ =
      f cs.length ⟨p, cs.map .char⟩ := by
    rw [← hlength]
    rfl
  rw [hrun]
  exact h p

end Bind

theorem Refuses.reads {r : Reader α} (h : Refuses r) (cs : List Char) : Reads r cs none :=
  fun p => h ⟨p, cs.map .char⟩

theorem refuses_failHere (cause : Cause) : Refuses (failHere cause : Reader α) := fun _ => ⟨_, rfl⟩

theorem refuses_failNext (cause : Cause) : Refuses (failNext cause : Reader α) := fun _ => ⟨_, rfl⟩

theorem Refuses.bind {r : Reader α} {f : α → Reader β} (h : ∀ a, Refuses (f a)) :
    Refuses (r >>= f) := by
  intro c
  cases hr : r c with
  | error fault => exact ⟨fault, bind_of_error hr⟩
  | ok x =>
    obtain ⟨fault, hfault⟩ := h x.1 x.2
    exact ⟨fault, (bind_of_ok hr).trans hfault⟩

/-! ## Single steps -/

section Steps

variable {c : Char} {cs : List Char}

theorem reads_peek (c : Char) (cs : List Char) :
    Reads peek (c :: cs) (some (some (.char c), c :: cs)) := fun p => ⟨p, rfl⟩

theorem reads_peek_nil : Reads peek [] (some (none, [])) := fun p => ⟨p, rfl⟩

theorem reads_advance (c : Char) (cs : List Char) : Reads advance (c :: cs) (some ((), cs)) :=
  fun p => ⟨p.after (.char c), rfl⟩

/-- A character that is no blank. -/
def IsSolid (c : Char) : Prop := isBlank (.char c) = false

instance (c : Char) : Decidable (IsSolid c) := inferInstanceAs (Decidable (_ = _))

theorem reads_peekSolid (hc : IsSolid c) (cs : List Char) :
    Reads peekSolid (c :: cs) (some (some (.char c), c :: cs)) := by
  intro p
  refine ⟨p, ?_⟩
  have hstay : behindBlanks p (.char c :: cs.map .char) = ⟨p, .char c :: cs.map .char⟩ := by
    rw [behindBlanks, hc]
    rfl
  have hskip : skipBlanks ⟨p, .char c :: cs.map .char⟩ = .ok ((), ⟨p, .char c :: cs.map .char⟩) :=
    congrArg (fun c => Except.ok ((), c)) hstay
  rw [List.map_cons, peekSolid, bind_of_ok hskip]
  rfl

theorem reads_peekSolid_nil : Reads peekSolid [] (some (none, [])) := fun p => ⟨p, rfl⟩

theorem reads_word (ws rest : List Char) : Reads (word ws) (ws ++ rest) (some ((), rest)) := by
  induction ws with
  | nil => exact .pure () rest
  | cons w ws ih =>
    refine .bind (reads_peek w (ws ++ rest)) ?_
    dsimp only
    rw [if_pos rfl]
    exact .bind (reads_advance w (ws ++ rest)) ih

/-- Digits are taken up to the first character that is none. -/
theorem reads_digits {ds rest : List Char} (hds : ∀ d ∈ ds, d.isDigit = true)
    (hrest : ∀ c ∈ rest.head?, c.isDigit = false) :
    Reads digits (ds ++ rest) (some (ds, rest)) := by
  have hstop (p : Position) (taken : List Char) :
      digitsFrom p taken (rest.map .char) = (taken.reverse, ⟨p, rest.map .char⟩) := by
    cases rest with
    | nil => rfl
    | cons c rest =>
      rw [List.map_cons, digitsFrom, if_neg (Bool.eq_false_iff.1 (hrest c rfl))]
  have hfrom (p : Position) (taken : List Char) :
      ∃ q, digitsFrom p taken ((ds ++ rest).map .char) =
        (taken.reverse ++ ds, ⟨q, rest.map .char⟩) := by
    induction ds generalizing p taken with
    | nil => exact ⟨p, by rw [List.append_nil]; exact hstop p taken⟩
    | cons d ds ih =>
      obtain ⟨hd, hds⟩ := List.forall_mem_cons.1 hds
      obtain ⟨q, hq⟩ := ih hds (p.after (.char d)) (d :: taken)
      refine ⟨q, ?_⟩
      rw [List.cons_append, List.map_cons, digitsFrom, if_pos hd, hq, List.reverse_cons,
        List.append_assoc, List.singleton_append]
  intro p
  obtain ⟨q, hq⟩ := hfrom p []
  exact ⟨q, congrArg Except.ok hq⟩

end Steps

/-! ## Whole texts -/

theorem glyphs_toUTF8 (s : String) : glyphs s.toUTF8 = s.toList.map .char := by
  have hback : String.fromUTF8? s.toUTF8 = some s := by
    rw [String.toUTF8_eq_toByteArray, String.fromUTF8?, dif_pos s.isValidUTF8]
    rfl
  rw [glyphs, hback]

end Vendoring.Json.Reader

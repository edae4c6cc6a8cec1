import Vendoring.Proofs.Yaml.Node
import Vendoring.Yaml.Decode

/-!
# Records of written entries

A mapping is written as entries, each of which is known to a record or not. **If no known key is
repeated, the record is changed by its known entries, one after the other, and by nothing else;
otherwise the mapping is refused** (`record_given`).
-/

set_option autoImplicit false

namespace Vendoring.Yaml

/-! ## Numbers -/

theorem digitValue?_of_isDigit {c : Char} (h : c.isDigit = true) :
    digitValue? 10 c = some (c.toNat - '0'.toNat) := by
  rw [Char.isDigit, Bool.and_eq_true, decide_eq_true_eq, decide_eq_true_eq] at h
  have hvalue : hexValue? c = some (c.toNat - '0'.toNat) := if_pos h
  have hlt : c.toNat - '0'.toNat < 10 := by
    have hle : c.toNat ≤ '0'.toNat + 9 := h.2
    omega
  rw [digitValue?, hvalue, Option.filter_some, decide_eq_true hlt, if_pos rfl]

theorem foldlM_digitValue? {ds : List Char} (hds : ∀ d ∈ ds, d.isDigit = true) : ∀ n : Nat,
    ds.foldlM (fun n c => (digitValue? 10 c).map (n * 10 + ·)) n =
      some (Nat.ofDigitChars 10 ds n) := by
  induction ds with
  | nil => exact fun _ => rfl
  | cons d ds ih =>
    intro n
    obtain ⟨hd, hds⟩ := List.forall_mem_cons.1 hds
    rw [List.foldlM_cons, digitValue?_of_isDigit hd, Nat.ofDigitChars_cons, Nat.mul_comm]
    exact ih hds _

theorem splitSign_toDigits (n : Nat) :
    (Decimal.splitSign (Nat.toDigits 10 n)).2 = Nat.toDigits 10 n := by
  obtain ⟨d, ds, hdigits, hd⟩ := Decimal.toDigits_eq_cons n
  rw [hdigits]
  unfold Decimal.splitSign
  split
  · next heq =>
    cases heq
    cases hd
  · next heq =>
    cases heq
    cases hd
  · rfl

/-- **A natural number is read as what it is.** -/
theorem natural?_toString (n : Nat) : natural? (toString n) = some n := by
  have hidle : hasIdleZero (Nat.toDigits 10 n) = false := by
    rw [hasIdleZero, splitSign_toDigits]
    split
    · next heq => exact absurd heq (Decimal.toDigits_ne_zero_cons n _ _)
    · rfl
  have hvalue : digitsValue? 10 (Nat.toDigits 10 n) = some n := by
    rw [digitsValue?, if_neg (by simp [Nat.toDigits_ne_nil]),
      foldlM_digitValue? (fun _ => Decimal.isDigit_of_mem_toDigits),
      Nat.ofDigitChars_toDigits (by decide) (by decide)]
  have hunsigned : unsigned? (Nat.toDigits 10 n) = some n := by
    unfold unsigned?
    split
    · next heq => exact absurd heq (Decimal.toDigits_ne_zero_cons n _ _)
    · next heq => exact absurd heq (Decimal.toDigits_ne_zero_cons n _ _)
    · next heq => exact absurd heq (Decimal.toDigits_ne_zero_cons n _ _)
    · rw [hidle]
      exact hvalue
  rw [natural?, toList_toString_nat]
  split
  · next heq =>
    obtain ⟨d, ds, hdigits, hd⟩ := Decimal.toDigits_eq_cons n
    rw [hdigits] at heq
    cases heq
    cases hd
  · exact hunsigned

namespace Decoder

variable {α : Type} {d : Document} {path : Path} {n : Node} {style : Style} {s : String}

/-! ## Values -/

theorem text_scalar (h : n.IsScalar style s) (expected : String) :
    text expected d path n = .ok s := by
  obtain ⟨mark, rfl⟩ := h
  rfl

/-- Nothing where a value may be missing. -/
theorem optional_nothing (h : Written.nothing.Holds n) (decode : Decoder α) :
    optional decode d path n = .ok none := by
  obtain ⟨mark, rfl⟩ := h
  rfl

theorem optional_text (h : (Written.text s).Holds n) (decode : Decoder α) :
    optional decode d path n = some <$> decode d path n := by
  obtain ⟨mark, rfl⟩ := h
  rfl

theorem list_texts {ss : List String} (h : (Written.texts ss).Holds n) {decode : Decoder α}
    {f : String → α}
    (hdecode : ∀ {path s n}, (Written.text s).Holds n → decode d path n = .ok (f s)) :
    list decode d path n = .ok (ss.map f) := by
  obtain ⟨mark, items, rfl, hitems⟩ := h
  have hfrom : ∀ index, itemsFrom decode d path true index items = .ok (ss.map f) := by
    induction hitems with
    | nil => exact fun _ => rfl
    | cons hn _ ih =>
      intro index
      rw [itemsFrom, hdecode hn]
      show (itemsFrom decode d path true (index + 1) _ >>= _) = _
      rw [ih]
      rfl
  exact congrArg (placedAt _ path) (hfrom 0)

/-- A number where a value may be missing. -/
theorem optional_number {i limit : Nat} (h : n.IsScalar .plain s) (hs : natural? s = some i)
    (hi : i < limit) (expected : String) :
    optional (natural limit expected) d path n = .ok (some i) := by
  obtain ⟨mark, rfl⟩ := h
  have hne : ∀ s', natural? s' = none → s ≠ s' := by
    rintro _ hs' rfl
    rw [hs] at hs'
    cases hs'
  have hempty : s.isEmpty = false := String.isEmpty_eq_false_iff.2 (hne "" rfl)
  have hnull : isNull s = false := by
    simp [isNull, hne "null" rfl, hne "Null" rfl, hne "NULL" rfl, hne "~" rfl]
  have hsomething : isNothing (.scalar ⟨mark, none, none⟩ .plain s) = .ok false := by
    simp [isNothing, hempty, hnull]
  have hvalue : (natural? s).filter (· < limit) = some i := by
    rw [hs, Option.filter_some, decide_eq_true hi, if_pos rfl]
  have hnumber : natural limit expected d path (.scalar ⟨mark, none, none⟩ .plain s) = .ok i := by
    simp only [natural, placed, resolved, Document.resolve, mayBeNumber, hvalue]
    rfl
  show (isNothing (.scalar ⟨mark, none, none⟩ .plain s) >>= _) = _
  rw [hsomething]
  show some <$> natural limit expected d path (.scalar ⟨mark, none, none⟩ .plain s) = _
  rw [hnumber]
  rfl

end Decoder

/-! ## Entries -/

/-- An entry of a mapping for a record. -/
inductive Given (F : Type) where
  /-- One that the record knows. -/
  | known (f : F)
  | other (f : Field)
  deriving Repr

namespace Given

variable {F α : Type}

/-- The known entries among some. -/
def knownOnes (gs : List (Given F)) : List F :=
  gs.filterMap fun
    | known f => some f
    | other _ => none

/-- No known key is named twice. -/
def NamesOnce (key : F → String) (gs : List (Given F)) : Prop := ((knownOnes gs).map key).Nodup

instance (key : F → String) (gs : List (Given F)) : Decidable (NamesOnce key gs) :=
  inferInstanceAs (Decidable ((knownOnes gs).map key).Nodup)

/-- A record with what the entry gives. -/
def change (set : F → α → α) (a : α) : Given F → α
  | known f => set f a
  | other _ => a

end Given

namespace Decoder

/-- A refusal because of a repeated key. -/
def IsRepetition {α : Type} (result : Except Refusal α) : Prop :=
  ∃ key place?, result = .error (.refused (.repeatedField key) place?)

theorem IsRepetition.map {α β : Type} {result : Except Refusal α} (h : IsRepetition result)
    (f : α → β) : IsRepetition (f <$> result) := by
  obtain ⟨key, place?, rfl⟩ := h
  exact ⟨key, place?, rfl⟩

theorem IsRepetition.placedAt {α : Type} {result : Except Refusal α} (h : IsRepetition result)
    (n : Node) (path : Path) : IsRepetition (placedAt n path result) := by
  obtain ⟨key, place?, rfl⟩ := h
  cases place? with
  | none => exact ⟨key, some (n.mark, path), rfl⟩
  | some place => exact ⟨key, some place, rfl⟩

section

variable {F α : Type} (key : F → String) (set : F → α → α) (sound : F → Prop) (fields : Fields α)
  (d : Document)

/-- What the key and the value of an entry do to a record: a sound entry sets its field, and one
that is not is refused because of a key inside it. -/
inductive Changes : Given F → Node → Node → Prop
  | known {f : F} {k v : Node} (hk : k.IsScalar .plain (key f)) {change : α → Decoder α}
    (hfield : fields (key f) = some change)
    (hsound : sound f → ∀ a path, change a d path v = .ok (set f a))
    (hrepeated : ¬ sound f → ∀ a path, IsRepetition (change a d path v)) :
    Changes (.known f) k v
  | other {f : Field} {k v : Node} (hk : k.IsScalar .plain f.key) (hfield : fields f.key = none) :
    Changes (.other f) k v

/-- An entry whose value is decoded sets its field. -/
theorem Changes.decoded {key : F → String} {set : F → α → α} {sound : F → Prop} {fields : Fields α}
    {d : Document} {f : F} {k v : Node} {β : Type} {decode : Decoder β} {put : β → α → α} {b : β}
    (hk : k.IsScalar .plain (key f)) (hfield : fields (key f) = field decode put)
    (hdecode : ∀ path, decode d path v = .ok b) (hput : put b = set f) (hsound : sound f) :
    Changes key set sound fields d (.known f) k v := by
  refine .known hk hfield (fun _ a path => ?_) fun hnot => absurd hsound hnot
  show (put · a) <$> decode d path v = _
  rw [hdecode, ← hput]
  rfl

/-- No known key comes twice or has been seen, and no entry is refused. -/
def Unrepeated : List String → List (Given F) → Prop
  | _, [] => True
  | seen, .known f :: gs => key f ∉ seen ∧ sound f ∧ Unrepeated (key f :: seen) gs
  | seen, .other _ :: gs => Unrepeated seen gs

theorem unrepeated_iff (gs : List (Given F)) : ∀ seen, Unrepeated key sound seen gs ↔
    (∀ f ∈ Given.knownOnes gs, key f ∉ seen) ∧ (∀ f ∈ Given.knownOnes gs, sound f) ∧
      ((Given.knownOnes gs).map key).Nodup := by
  induction gs with
  | nil => simp [Unrepeated, Given.knownOnes]
  | cons g gs ih =>
    intro seen
    cases g with
    | other f => exact ih seen
    | known f =>
      rw [Unrepeated, ih]
      have hknown : Given.knownOnes (.known f :: gs) = f :: Given.knownOnes gs := rfl
      rw [hknown, List.map_cons, List.nodup_cons, List.forall_mem_cons, List.forall_mem_cons]
      simp only [List.mem_cons, not_or, List.mem_map, not_exists, not_and]
      constructor
      · rintro ⟨hseen, hf, hapart, hsound, hnodup⟩
        exact ⟨⟨hseen, fun f' h => (hapart f' h).2⟩, ⟨hf, hsound⟩, fun f' h => (hapart f' h).1,
          hnodup⟩
      · rintro ⟨⟨hseen, hunseen⟩, ⟨hf, hsound⟩, hapart, hnodup⟩
        exact ⟨hseen, hf, fun f' h => ⟨hapart f' h, hunseen f' h⟩, hsound, hnodup⟩

theorem unrepeated_nil (gs : List (Given F)) : Unrepeated key sound [] gs ↔
    Given.NamesOnce key gs ∧ ∀ f ∈ Given.knownOnes gs, sound f := by
  rw [unrepeated_iff, Given.NamesOnce, and_comm (a := ∀ f ∈ Given.knownOnes gs, sound f)]
  simp

variable {key set sound fields d}

/-- **Entries are read one after the other**, up to a repeated key. -/
theorem entries_given {gs : List (Given F)} {items : List Node}
    (h : Entries (Changes key set sound fields d) gs items) (path : Path) :
    ∀ (seen : List String) (a : α),
      (Unrepeated key sound seen gs →
        entries fields d path true seen a items = .ok (gs.foldl (Given.change set) a)) ∧
      (¬ Unrepeated key sound seen gs →
        IsRepetition (entries fields d path true seen a items)) := by
  induction h with
  | nil => exact fun seen a => ⟨fun _ => rfl, fun h => absurd True.intro h⟩
  | @cons g gs k v items hentry _ ih =>
    intro seen a
    cases hentry with
    | other hk hfield =>
      rw [entries, text_scalar hk]
      simp only [bind, Except.bind, hfield]
      exact ih seen a
    | @known f _ _ hk change hfield hsound hrepeated =>
      rw [entries, text_scalar hk]
      simp only [bind, Except.bind, hfield]
      by_cases hseen : key f ∈ seen
      · refine ⟨fun h => absurd hseen h.1, fun _ => ?_⟩
        rw [if_pos (List.contains_iff_mem.2 hseen)]
        exact ⟨key f, none, rfl⟩
      · rw [if_neg fun h => hseen (List.contains_iff_mem.1 h)]
        by_cases hf : sound f
        · rw [hsound hf]
          obtain ⟨hok, hbad⟩ := ih (key f :: seen) (set f a)
          exact ⟨fun h => hok h.2.2, fun h => hbad fun hrest => h ⟨hseen, hf, hrest⟩⟩
        · refine ⟨fun h => absurd h.2.1 hf, fun _ => ?_⟩
          obtain ⟨key', place?, hrefused⟩ := hrepeated hf a (fieldPath path k)
          rw [hrefused]
          exact ⟨key', place?, rfl⟩

/-- The node of a mapping whose entries change a record. -/
def IsRecord (key : F → String) (set : F → α → α) (sound : F → Prop) (fields : Fields α)
    (d : Document) (gs : List (Given F)) (n : Node) : Prop :=
  ∃ mark items, n = .mapping ⟨mark, none, none⟩ items true ∧
    Entries (Changes key set sound fields d) gs items

/-- **A record is what its known entries make of it, unless a known key is repeated.** -/
theorem record_given {gs : List (Given F)} {n : Node}
    (h : IsRecord key set sound fields d gs n) (expected : String) (start : α) (path : Path) :
    (Unrepeated key sound [] gs →
        record expected fields start d path n = .ok (gs.foldl (Given.change set) start)) ∧
      (¬ Unrepeated key sound [] gs → IsRepetition (record expected fields start d path n)) := by
  obtain ⟨mark, items, rfl, hentries⟩ := h
  obtain ⟨hok, hbad⟩ := entries_given hentries path [] start
  refine ⟨fun hgs => ?_, fun hgs => (hbad hgs).placedAt _ path⟩
  exact congrArg (placedAt _ path) (hok hgs)

/-- An entry whose value is a record sets its field, unless that repeats a key. -/
theorem Changes.ofRecord {F' α' : Type} {key' : F' → String} {set' : F' → α' → α'}
    {sound' : F' → Prop} {fields' : Fields α'} {f : F} {k v : Node} {expected : String}
    {start : α'} {put : α' → α → α} {gs : List (Given F')} (hk : k.IsScalar .plain (key f))
    (hfield : fields (key f) = field (record expected fields' start) put)
    (hrecord : IsRecord key' set' sound' fields' d gs v)
    (hput : put (gs.foldl (Given.change set') start) = set f)
    (hsound : sound f ↔ Unrepeated key' sound' [] gs) :
    Changes key set sound fields d (.known f) k v := by
  refine .known hk hfield (fun hf a path => ?_) fun hf a path => ?_
  · have hok := (record_given hrecord expected start path).1 (hsound.1 hf)
    show (put · a) <$> record expected fields' start d path v = _
    rw [hok, ← hput]
    rfl
  · have hbad := (record_given hrecord expected start path).2 fun h => hf (hsound.2 h)
    exact hbad.map _

end

end Decoder

end Vendoring.Yaml

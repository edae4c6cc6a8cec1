import Vendoring.Listing.Read
import Vendoring.Proofs.Json.Value

/-!
# Which values are entries

An entry is an object that has each of its keys once, apart from the download address, which can be
left out, or a list of its five values (`entryOfValue?`). What else an object holds does not matter.

The members of an object come in any order, and are put one after the other into a draft. What the
draft holds in the end depends only on what stands behind each key (`foldlM_addMember?`). So **the
draft becomes the entry that the object is** (`entryOfMembers?_eq`), and likewise for a list
(`entryOfElements?_eq`).
-/

set_option autoImplicit false

namespace Vendoring.Listing

open Json

/-! ## Entries as values -/

/-- The kind that a value stands for: a tag, or an object with `null` behind the tag. -/
def kind? : Value → Option EntryKind
  | .text tag => some (.ofTag tag)
  | .object [(tag, .null)] => some (.ofTag tag)
  | _ => none

/-- The values behind a key, in order. -/
def valuesOf (key : String) (members : List (String × Value)) : List Value :=
  (members.filter (·.1 = key)).map Prod.snd

section Values

variable {α : Type} (read : Value → Option α)

/-- What the one value says. -/
def readOne? : List Value → Option α
  | [v] => read v
  | _ => none

/-- What the one value says, if there is one. -/
def readAtMostOne? : List Value → Option (Option α)
  | [] => some none
  | [v] => (read v).map some
  | _ => none

end Values

/-- The entry that an object with these members is. -/
def entryOfMembers? (members : List (String × Value)) : Option Entry := do
  let name ← readOne? Value.text? (valuesOf "name" members)
  let path ← readOne? Value.text? (valuesOf "path" members)
  let kind ← readOne? kind? (valuesOf "type" members)
  let downloadUrl ← readAtMostOne? Value.textOrNull? (valuesOf "download_url" members)
  let listingUrl ← readOne? Value.text? (valuesOf "url" members)
  some ⟨name, path, kind, downloadUrl.getD none, listingUrl⟩

/-- The entry that a list of these elements is. -/
def entryOfElements? : List Value → Option Entry
  | [name, path, kind, downloadUrl, listingUrl] => do
    let name ← name.text?
    let path ← path.text?
    let kind ← kind? kind
    let downloadUrl ← downloadUrl.textOrNull?
    let listingUrl ← listingUrl.text?
    some ⟨name, path, kind, downloadUrl, listingUrl⟩
  | _ => none

/-- The entry that a value is. -/
def entryOfValue? : Value → Option Entry
  | .object members => entryOfMembers? members
  | .list elements => entryOfElements? elements
  | _ => none

/-! ## Drafts -/

/-- The draft with a value for a field. -/
def setField? (d : Draft) : Field → Value → Option Draft
  | .name, v => v.text?.map fun s => { d with name := some s }
  | .path, v => v.text?.map fun s => { d with path := some s }
  | .kind, v => (kind? v).map fun k => { d with kind := some k }
  | .downloadUrl, v => v.textOrNull?.map fun s? => { d with downloadUrl := some s? }
  | .listingUrl, v => v.text?.map fun s => { d with listingUrl := some s }

/-- The draft with a member more, unless it is there already or its value is of the wrong kind. -/
def addMember? (d : Draft) (m : String × Value) : Option Draft :=
  match Field.ofKey? m.1 with
  | none => some d
  | some field => if d.has field then none else setField? d field m.2

/-! ## What a draft holds in the end -/

section Slots

variable {α : Type} (read : Value → Option α)

/-- What is known of a field when these values are added to what is known of it already. -/
def slot? : Option α → List Value → Option (Option α)
  | none, vs => readAtMostOne? read vs
  | some a, [] => some (some a)
  | some _, _ :: _ => none

theorem slot?_nil (a? : Option α) : slot? read a? [] = some a? := by
  cases a? <;> rfl

theorem slot?_some_cons (a : α) (v : Value) (vs : List Value) :
    slot? read (some a) (v :: vs) = none := rfl

theorem slot?_none_cons (v : Value) (vs : List Value) :
    slot? read none (v :: vs) = (read v).bind fun a => slot? read (some a) vs := by
  cases vs with
  | nil => exact Option.map_eq_bind
  | cons w ws => exact (Option.bind_fun_none _).symm

theorem readOne?_eq (vs : List Value) : readOne? read vs = (readAtMostOne? read vs).bind id := by
  match vs with
  | [] => rfl
  | [v] =>
    show read v = ((read v).map some).bind id
    cases read v <;> rfl
  | _ :: _ :: _ => rfl

end Slots

theorem valuesOf_cons_self {key : String} {v : Value} {members : List (String × Value)} :
    valuesOf key ((key, v) :: members) = v :: valuesOf key members := by
  simp [valuesOf]

theorem valuesOf_cons_of_ne {key other : String} (h : other ≠ key) {v : Value}
    {members : List (String × Value)} :
    valuesOf key ((other, v) :: members) = valuesOf key members := by
  simp [valuesOf, h]

/-- The draft with all these values for each field. -/
def settle? (d : Draft) (values : Field → List Value) : Option Draft :=
  (slot? Value.text? d.name (values .name)).bind fun name =>
  (slot? Value.text? d.path (values .path)).bind fun path =>
  (slot? kind? d.kind (values .kind)).bind fun kind =>
  (slot? Value.textOrNull? d.downloadUrl (values .downloadUrl)).bind fun downloadUrl =>
  (slot? Value.text? d.listingUrl (values .listingUrl)).bind fun listingUrl =>
    some ⟨name, path, kind, downloadUrl, listingUrl⟩

theorem settle?_nil (d : Draft) : settle? d (fun _ => []) = some d := by
  simp [settle?, slot?_nil]

/-- The first value for a field can be put into the draft before all others. -/
theorem settle?_cons (d : Draft) {field : Field} {v : Value} {values more : Field → List Value}
    (hself : more field = v :: values field) (hother : ∀ f, f ≠ field → more f = values f) :
    settle? d more =
      (if d.has field then none else setField? d field v).bind (settle? · values) := by
  cases field with
  | name =>
    cases hknown : d.name with
    | some a => simp [settle?, hself, hknown, Draft.has, slot?_some_cons]
    | none =>
      cases hv : v.text? <;>
        simp [settle?, hself, hother, hknown, hv, Draft.has, setField?, slot?_none_cons]
  | path =>
    cases hknown : d.path with
    | some a => simp [settle?, hself, hknown, Draft.has, slot?_some_cons]
    | none =>
      cases hv : v.text? <;>
        simp [settle?, hself, hother, hknown, hv, Draft.has, setField?, slot?_none_cons]
  | kind =>
    cases hknown : d.kind with
    | some a => simp [settle?, hself, hknown, Draft.has, slot?_some_cons]
    | none =>
      cases hv : kind? v <;>
        simp [settle?, hself, hother, hknown, hv, Draft.has, setField?, slot?_none_cons]
  | downloadUrl =>
    cases hknown : d.downloadUrl with
    | some a => simp [settle?, hself, hknown, Draft.has, slot?_some_cons]
    | none =>
      cases hv : v.textOrNull? <;>
        simp [settle?, hself, hother, hknown, hv, Draft.has, setField?, slot?_none_cons]
  | listingUrl =>
    cases hknown : d.listingUrl with
    | some a => simp [settle?, hself, hknown, Draft.has, slot?_some_cons]
    | none =>
      cases hv : v.text? <;>
        simp [settle?, hself, hother, hknown, hv, Draft.has, setField?, slot?_none_cons]

theorem ofKey?_eq_some_iff {key : String} {field : Field} :
    Field.ofKey? key = some field ↔ field.key = key := by
  constructor
  · intro h
    simpa using List.find?_some h
  · rintro rfl
    cases field <;> rfl

theorem key_injective {f g : Field} (h : f.key = g.key) : f = g :=
  Option.some.inj ((ofKey?_eq_some_iff.2 h).symm.trans (ofKey?_eq_some_iff.2 rfl))

/-- **What a draft holds in the end depends only on what stands behind each key.** -/
theorem foldlM_addMember? (members : List (String × Value)) (d : Draft) :
    members.foldlM addMember? d = settle? d fun field => valuesOf field.key members := by
  induction members generalizing d with
  | nil => exact (settle?_nil d).symm
  | cons m members ih =>
    obtain ⟨key, v⟩ := m
    -- The induction hypothesis is for the draft that has the first member already.
    rw [List.foldlM_cons]
    cases hkey : Field.ofKey? key with
    | none =>
      have hadd : addMember? d (key, v) = some d := by simp only [addMember?, hkey]
      have hother (field : Field) : key ≠ field.key := fun h => by
        rw [ofKey?_eq_some_iff.2 h.symm] at hkey
        exact absurd hkey nofun
      simp only [hadd, valuesOf_cons_of_ne (hother _)]
      exact ih d
    | some field =>
      have hadd : addMember? d (key, v) = if d.has field then none else setField? d field v := by
        simp only [addMember?, hkey]
      obtain rfl := ofKey?_eq_some_iff.1 hkey
      have hother (f : Field) (hf : f ≠ field) : field.key ≠ f.key :=
        fun h => hf (key_injective h).symm
      rw [hadd, settle?_cons d valuesOf_cons_self fun f hf => valuesOf_cons_of_ne (hother f hf)]
      exact congrArg _ (funext ih)

theorem toOption_entry (d : Draft) :
    d.entry.toOption =
      d.name.bind fun name => d.path.bind fun path => d.kind.bind fun kind =>
        d.listingUrl.bind fun listingUrl =>
          some ⟨name, path, kind, d.downloadUrl.getD none, listingUrl⟩ := by
  obtain ⟨name, path, kind, downloadUrl, listingUrl⟩ := d
  cases name with
  | none => rfl
  | some name =>
    cases path with
    | none => rfl
    | some path =>
      cases kind with
      | none => rfl
      | some kind => cases listingUrl <;> rfl

/-- **The entry of a draft with all members is the one that the object is.** -/
theorem entryOfMembers?_eq (members : List (String × Value)) :
    ((members.foldlM addMember? .empty).bind fun d => d.entry.toOption) =
      entryOfMembers? members := by
  rw [foldlM_addMember?]
  simp only [entryOfMembers?, readOne?_eq, settle?, Draft.empty, slot?, Field.key, toOption_entry]
  -- Missing or not, what is behind one key has no influence on what is behind the others.
  generalize readAtMostOne? Value.text? (valuesOf "name" members) = name
  generalize readAtMostOne? Value.text? (valuesOf "path" members) = path
  generalize readAtMostOne? kind? (valuesOf "type" members) = kind
  generalize readAtMostOne? Value.textOrNull? (valuesOf "download_url" members) = downloadUrl
  generalize readAtMostOne? Value.text? (valuesOf "url" members) = listingUrl
  rcases name with _ | _ | name
  · rfl
  · simp only [Option.bind_some, Option.bind_assoc, Option.bind_none, Option.bind_fun_none, id]
    rfl
  rcases path with _ | _ | path
  · rfl
  · simp only [Option.bind_some, Option.bind_assoc, Option.bind_none, Option.bind_fun_none, id]
    rfl
  rcases kind with _ | _ | kind
  · rfl
  · simp only [Option.bind_some, Option.bind_assoc, Option.bind_none, Option.bind_fun_none, id]
    rfl
  rcases downloadUrl with _ | downloadUrl
  · rfl
  rcases listingUrl with _ | _ | listingUrl <;> rfl

/-! ## Lists of values -/

/-- The draft with one value for each field, and the values that are left over. -/
def takeFields? : List Field → Draft → List Value → Option (Draft × List Value)
  | [], d, vs => some (d, vs)
  | field :: fields, d, v :: vs => (setField? d field v).bind fun d => takeFields? fields d vs
  | _ :: _, _, [] => none

/-- **Five values in order are an entry, and no other number of them is.** -/
theorem entryOfElements?_eq (elements : List Value) :
    ((takeFields? Field.all .empty elements).bind fun x =>
      if x.2.isEmpty then x.1.entry.toOption else none) = entryOfElements? elements := by
  match elements with
  | [] => rfl
  | [_] | [_, _] | [_, _, _] | [_, _, _, _] =>
    simp only [takeFields?, Field.all, Option.bind_fun_none, Option.bind_none]
    rfl
  | [name, path, kind, downloadUrl, listingUrl] =>
    simp only [takeFields?, Field.all, setField?, Draft.empty, Option.bind_map, Option.bind_assoc,
      Function.comp_def, Option.bind_some, List.isEmpty_nil, if_true, toOption_entry]
    rfl
  | _ :: _ :: _ :: _ :: _ :: _ :: _ =>
    simp only [takeFields?, Field.all, Option.bind_assoc, Option.bind_some, List.isEmpty_cons,
      Bool.false_eq_true, if_false, Option.bind_fun_none]
    rfl

end Vendoring.Listing

import Vendoring.Proofs.Yaml.Record
import Vendoring.Settings.Load

/-!
# Settings that a file names

A file names some settings in any order, each with its key, and may hold keys that mean nothing.
**The settings in the file are the default ones, with those replaced that it names**
(`load_named`); it is refused if it names a setting twice.

A key without quotes is known as such only up to 1024 characters. A longer one makes the whole file
unreadable (`load_longKey`).
-/

set_option autoImplicit false

namespace Vendoring

open Yaml Yaml.Decoder

/-! ## What a file names -/

/-- A setting for the decompiler sources. -/
inductive DecompilerEntry where
  | remotePath (s : String)
  | targets (ss : List String)
  deriving DecidableEq, Repr

/-- A setting for the processor definitions. -/
inductive ProcessorEntry where
  | remotePath (s : String)
  | outputDir (s : String)
  | excludedExtensions (ss : List String)
  | maxDepth (n? : Option Nat)
  deriving DecidableEq, Repr

/-- A setting, or a section of settings with its indentation. -/
inductive SettingsEntry where
  | apiBase (s : String)
  | repository (s : String)
  | reference (s? : Option String)
  | decompiler (indentation : Nat) (entries : List (Given DecompilerEntry))
  | processors (indentation : Nat) (entries : List (Given ProcessorEntry))

/-- The field of an entry. -/
def Yaml.Given.field {F : Type} (field : F → Field) : Given F → Field
  | known f => field f
  | other f => f

/-- The entry can be written, and is known only if its key is. -/
def Yaml.Given.IsWritable {F : Type} (writable : F → Prop) (keys : List String) : Given F → Prop
  | known f => writable f
  | other f => f.IsWritable ∧ f.key ∉ keys

instance {F : Type} (writable : F → Prop) [DecidablePred writable] (keys : List String) :
    (g : Given F) → Decidable (g.IsWritable writable keys)
  | .known f => inferInstanceAs (Decidable (writable f))
  | .other f => inferInstanceAs (Decidable (f.IsWritable ∧ f.key ∉ keys))

/-! ## Sections -/

namespace DecompilerEntry

/-- The keys of the section. -/
def keys : List String := ["remote_path", "targets"]

/-- How a setting is written. -/
def field : DecompilerEntry → Field
  | remotePath s => ⟨"remote_path", .text s⟩
  | targets ss => ⟨"targets", .texts ss⟩

theorem key_mem (e : DecompilerEntry) : e.field.key ∈ keys := by
  cases e <;> simp [field, keys]

/-- Can the setting be written? -/
def IsWritable (e : DecompilerEntry) : Prop := e.field.value.IsPrintable

instance (e : DecompilerEntry) : Decidable e.IsWritable :=
  inferInstanceAs (Decidable e.field.value.IsPrintable)

/-- The settings with a new value for one of them. -/
def set : DecompilerEntry → DecompilerSettings → DecompilerSettings
  | remotePath s, d => { d with remotePath := s }
  | targets ss, d => { d with targets := ss.map LocalPath.mk }

end DecompilerEntry

namespace ProcessorEntry

/-- The keys of the section. -/
def keys : List String := ["remote_path", "output_dir", "excluded_extensions", "max_depth"]

/-- How a setting is written. -/
def field : ProcessorEntry → Field
  | remotePath s => ⟨"remote_path", .text s⟩
  | outputDir s => ⟨"output_dir", .text s⟩
  | excludedExtensions ss => ⟨"excluded_extensions", .texts ss⟩
  | maxDepth (some n) => ⟨"max_depth", .number n⟩
  | maxDepth none => ⟨"max_depth", .nothing⟩

theorem key_mem (e : ProcessorEntry) : e.field.key ∈ keys := by
  cases e with
  | maxDepth n? => cases n? <;> simp [field, keys]
  | _ => simp [field, keys]

/-- A depth has to fit into 64 bits. -/
def DepthFits : ProcessorEntry → Prop
  | maxDepth (some n) => n < 0x10000000000000000
  | _ => True

instance : (e : ProcessorEntry) → Decidable e.DepthFits
  | maxDepth (some n) => inferInstanceAs (Decidable (n < 0x10000000000000000))
  | maxDepth none | remotePath _ | outputDir _ | excludedExtensions _ => .isTrue trivial

/-- Can the setting be written? -/
def IsWritable (e : ProcessorEntry) : Prop := e.field.value.IsPrintable ∧ e.DepthFits

instance (e : ProcessorEntry) : Decidable e.IsWritable :=
  inferInstanceAs (Decidable (e.field.value.IsPrintable ∧ e.DepthFits))

/-- The settings with a new value for one of them. -/
def set : ProcessorEntry → ProcessorSettings → ProcessorSettings
  | remotePath s, p => { p with remotePath := s }
  | outputDir s, p => { p with outputDir := ⟨s⟩ }
  | excludedExtensions ss, p => { p with excludedExtensions := ss }
  | maxDepth n?, p => { p with maxDepth := n? }

end ProcessorEntry

theorem DecompilerSettings.fields_eq_none {key : String} (h : key ∉ DecompilerEntry.keys) :
    DecompilerSettings.fields key = none := by
  unfold DecompilerSettings.fields
  split
  · simp [DecompilerEntry.keys] at h
  · simp [DecompilerEntry.keys] at h
  · rfl

theorem ProcessorSettings.fields_eq_none {key : String} (h : key ∉ ProcessorEntry.keys) :
    ProcessorSettings.fields key = none := by
  unfold ProcessorSettings.fields
  split
  · simp [ProcessorEntry.keys] at h
  · simp [ProcessorEntry.keys] at h
  · simp [ProcessorEntry.keys] at h
  · simp [ProcessorEntry.keys] at h
  · rfl

section

variable {d : Document} {path : Path} {k v : Yaml.Node} {s : String} {ss : List String}

theorem pathSetting_scalar (h : (Written.text s).Holds v) : pathSetting d path v = .ok ⟨s⟩ := by
  rw [pathSetting, text_scalar h]
  rfl

/-- An entry of the section for the decompiler sources sets its field. -/
theorem changes_decompilerEntry {e : Given DecompilerEntry}
    (he : e.IsWritable DecompilerEntry.IsWritable DecompilerEntry.keys)
    (h : (e.field DecompilerEntry.field).Holds k v) :
    Changes (fun e => e.field.key) DecompilerEntry.set (fun _ => True) DecompilerSettings.fields d e
      k v := by
  obtain ⟨hk, hv⟩ := h
  cases e with
  | other f => exact .other hk (DecompilerSettings.fields_eq_none he.2)
  | known e =>
    cases e with
    | remotePath s => exact .decoded hk rfl (fun _ => text_scalar hv _) rfl trivial
    | targets ss =>
      exact .decoded hk rfl (fun _ => list_texts hv pathSetting_scalar) rfl trivial

/-- An entry of the section for the processor definitions sets its field. -/
theorem changes_processorEntry {e : Given ProcessorEntry}
    (he : e.IsWritable ProcessorEntry.IsWritable ProcessorEntry.keys)
    (h : (e.field ProcessorEntry.field).Holds k v) :
    Changes (fun e => e.field.key) ProcessorEntry.set (fun _ => True) ProcessorSettings.fields d e
      k v := by
  obtain ⟨hk, hv⟩ := h
  cases e with
  | other f => exact .other hk (ProcessorSettings.fields_eq_none he.2)
  | known e =>
    cases e with
    | remotePath s => exact .decoded hk rfl (fun _ => text_scalar hv _) rfl trivial
    | outputDir s => exact .decoded hk rfl (fun _ => pathSetting_scalar hv) rfl trivial
    | excludedExtensions ss =>
      have hlist : ∀ path, list stringSetting d path v = .ok (ss.map id) := fun _ =>
        list_texts hv fun hs => text_scalar hs _
      rw [List.map_id] at hlist
      exact .decoded hk rfl hlist rfl trivial
    | maxDepth n? =>
      cases n? with
      | none => exact .decoded hk rfl (fun _ => optional_nothing hv _) rfl trivial
      | some n =>
        exact .decoded hk rfl (fun _ => optional_number hv (natural?_toString n) he.2 _) rfl
          trivial

end

/-! ## All settings -/

namespace SettingsEntry

/-- The keys of settings and sections. -/
def keys : List String := ["api_base", "repository", "reference", "decompiler", "processors"]

/-- How a setting or section is written. -/
def line : SettingsEntry → Line
  | apiBase s => .field ⟨"api_base", .text s⟩
  | repository s => .field ⟨"repository", .text s⟩
  | reference (some s) => .field ⟨"reference", .text s⟩
  | reference none => .field ⟨"reference", .nothing⟩
  | decompiler count es => .block "decompiler" count (es.map (Given.field DecompilerEntry.field))
  | processors count es => .block "processors" count (es.map (Given.field ProcessorEntry.field))

theorem key_mem (e : SettingsEntry) : e.line.key ∈ keys := by
  cases e with
  | reference s? => cases s? <;> simp [line, Line.key, keys]
  | _ => simp [line, Line.key, keys]

/-- Can the setting or section be written? A section is indented and not empty. -/
def IsWritable : SettingsEntry → Prop
  | apiBase s | repository s => (Written.text s).IsPrintable
  | reference s? => ∀ s ∈ s?, (Written.text s).IsPrintable
  | decompiler count es => 0 < count ∧ es ≠ [] ∧
    ∀ e ∈ es, e.IsWritable DecompilerEntry.IsWritable DecompilerEntry.keys
  | processors count es => 0 < count ∧ es ≠ [] ∧
    ∀ e ∈ es, e.IsWritable ProcessorEntry.IsWritable ProcessorEntry.keys

instance : (e : SettingsEntry) → Decidable e.IsWritable
  | apiBase s | repository s => inferInstanceAs (Decidable (Written.text s).IsPrintable)
  | reference none => .isTrue nofun
  | reference (some s) => decidable_of_iff (Written.text s).IsPrintable
    ⟨fun h _ hs => Option.some.inj hs ▸ h, fun h => h s rfl⟩
  | decompiler count es => inferInstanceAs (Decidable (0 < count ∧ es ≠ [] ∧
    ∀ e ∈ es, e.IsWritable DecompilerEntry.IsWritable DecompilerEntry.keys))
  | processors count es => inferInstanceAs (Decidable (0 < count ∧ es ≠ [] ∧
    ∀ e ∈ es, e.IsWritable ProcessorEntry.IsWritable ProcessorEntry.keys))

/-- The settings with a new value for one of them. The settings of a section that it does not name
are the default ones. -/
def set : SettingsEntry → Settings → Settings
  | apiBase v, s => { s with apiBase := v }
  | repository v, s => { s with repository := v }
  | reference v, s => { s with reference := v }
  | decompiler _ es, s => { s with
    decompiler := es.foldl (Given.change DecompilerEntry.set) Settings.defaultDecompiler }
  | processors _ es, s => { s with
    processors := es.foldl (Given.change ProcessorEntry.set) Settings.defaultProcessors }

/-- No setting of a section is named twice. -/
def NamesOnce : SettingsEntry → Prop
  | decompiler _ es => Given.NamesOnce (fun e => e.field.key) es
  | processors _ es => Given.NamesOnce (fun e => e.field.key) es
  | _ => True

instance : (e : SettingsEntry) → Decidable e.NamesOnce
  | decompiler _ es => inferInstanceAs (Decidable (Given.NamesOnce (fun e => e.field.key) es))
  | processors _ es => inferInstanceAs (Decidable (Given.NamesOnce (fun e => e.field.key) es))
  | apiBase _ | repository _ | reference _ => .isTrue trivial

end SettingsEntry

namespace Settings

/-- The line of a setting or section, or of something else. -/
def entryLine : Given SettingsEntry → Line
  | .known e => e.line
  | .other f => .field f

/-- Can all entries of a file be written? -/
def AreWritable (es : List (Given SettingsEntry)) : Prop :=
  ∀ e ∈ es, e.IsWritable SettingsEntry.IsWritable SettingsEntry.keys

/-- No setting is named twice, nor a section. -/
def NamesOnce (es : List (Given SettingsEntry)) : Prop :=
  Given.NamesOnce (fun e => e.line.key) es ∧ ∀ e ∈ Given.knownOnes es, e.NamesOnce

instance (es : List (Given SettingsEntry)) : Decidable (AreWritable es) :=
  inferInstanceAs (Decidable (∀ e ∈ es, e.IsWritable SettingsEntry.IsWritable SettingsEntry.keys))

instance (es : List (Given SettingsEntry)) : Decidable (NamesOnce es) :=
  inferInstanceAs (Decidable (Given.NamesOnce (fun e => e.line.key) es ∧
    ∀ e ∈ Given.knownOnes es, e.NamesOnce))

/-- A file with some entries. -/
def fileText (es : List (Given SettingsEntry)) : String :=
  String.ofList (es.flatMap fun e => (entryLine e).chars)

theorem fields_eq_none {key : String} (h : key ∉ SettingsEntry.keys) : fields key = none := by
  unfold fields
  split
  · simp [SettingsEntry.keys] at h
  · simp [SettingsEntry.keys] at h
  · simp [SettingsEntry.keys] at h
  · simp [SettingsEntry.keys] at h
  · simp [SettingsEntry.keys] at h
  · rfl

end Settings

section

variable {d : Document} {k v : Yaml.Node}

theorem namesOnce_iff_unrepeated {F : Type} (key : F → String) (gs : List (Given F)) :
    Given.NamesOnce key gs ↔ Unrepeated key (fun _ => True) [] gs := by
  simp [unrepeated_nil]

/-- An entry of a file sets its field. -/
theorem changes_settingsEntry {e : Given SettingsEntry}
    (he : e.IsWritable SettingsEntry.IsWritable SettingsEntry.keys)
    (h : (Settings.entryLine e).Holds k v) :
    Changes (fun e => e.line.key) SettingsEntry.set SettingsEntry.NamesOnce Settings.fields d e
      k v := by
  cases e with
  | other f => exact .other h.1 (Settings.fields_eq_none he.2)
  | known e =>
    cases e with
    | apiBase s =>
      obtain ⟨hk, hv⟩ := h
      exact .decoded hk rfl (fun _ => text_scalar hv _) rfl trivial
    | repository s =>
      obtain ⟨hk, hv⟩ := h
      exact .decoded hk rfl (fun _ => text_scalar hv _) rfl trivial
    | reference s? =>
      cases s? with
      | none =>
        obtain ⟨hk, hv⟩ := h
        exact .decoded hk rfl (fun _ => optional_nothing hv _) rfl trivial
      | some s =>
        obtain ⟨hk, hv⟩ := h
        have hdecode : ∀ path, optional stringSetting d path v = .ok (some s) := by
          intro path
          rw [optional_text hv, stringSetting, text_scalar hv]
          rfl
        exact .decoded hk rfl hdecode rfl trivial
    | decompiler count es =>
      obtain ⟨hk, mark, items, rfl, hitems⟩ := h
      obtain ⟨-, -, hes⟩ := he
      have hrecord : IsRecord (fun e => e.field.key) DecompilerEntry.set (fun _ => True)
          DecompilerSettings.fields d es (.mapping ⟨mark, none, none⟩ items true) :=
        ⟨mark, items, rfl, hitems.of_map.mono fun e he _ _ => changes_decompilerEntry (hes e he)⟩
      exact .ofRecord hk rfl hrecord rfl (namesOnce_iff_unrepeated _ es)
    | processors count es =>
      obtain ⟨hk, mark, items, rfl, hitems⟩ := h
      obtain ⟨-, -, hes⟩ := he
      have hrecord : IsRecord (fun e => e.field.key) ProcessorEntry.set (fun _ => True)
          ProcessorSettings.fields d es (.mapping ⟨mark, none, none⟩ items true) :=
        ⟨mark, items, rfl, hitems.of_map.mono fun e he _ _ => changes_processorEntry (hes e he)⟩
      exact .ofRecord hk rfl hrecord rfl (namesOnce_iff_unrepeated _ es)

end

/-! ## Files -/

namespace Settings

/-- All keys of settings can be written. -/
theorem isKey_of_mem : ∀ key ∈ SettingsEntry.keys ++ DecompilerEntry.keys ++ ProcessorEntry.keys,
    IsKey key.toList ∧ key.length ≤ Scan.maxKeyLength := by
  decide

theorem isWritable_decompilerEntry {e : Given DecompilerEntry}
    (he : e.IsWritable DecompilerEntry.IsWritable DecompilerEntry.keys) :
    (e.field DecompilerEntry.field).IsWritable := by
  cases e with
  | other f => exact he.1
  | known e =>
    obtain ⟨hkey, hlength⟩ := isKey_of_mem e.field.key (by simp [e.key_mem])
    exact ⟨hkey, hlength, he⟩

theorem isWritable_processorEntry {e : Given ProcessorEntry}
    (he : e.IsWritable ProcessorEntry.IsWritable ProcessorEntry.keys) :
    (e.field ProcessorEntry.field).IsWritable := by
  cases e with
  | other f => exact he.1
  | known e =>
    obtain ⟨hkey, hlength⟩ := isKey_of_mem e.field.key (by simp [e.key_mem])
    exact ⟨hkey, hlength, he.1⟩

/-- The lines of a file can be written. -/
theorem isWritable_entryLine {e : Given SettingsEntry}
    (he : e.IsWritable SettingsEntry.IsWritable SettingsEntry.keys) : (entryLine e).IsWritable := by
  cases e with
  | other f => exact .field he.1
  | known e =>
    obtain ⟨hkey, hlength⟩ := isKey_of_mem e.line.key (by simp [e.key_mem])
    cases e with
    | apiBase s => exact .field ⟨hkey, hlength, he⟩
    | repository s => exact .field ⟨hkey, hlength, he⟩
    | reference s? =>
      cases s? with
      | none => exact .field ⟨hkey, hlength, trivial⟩
      | some s => exact .field ⟨hkey, hlength, he s rfl⟩
    | decompiler count es =>
      obtain ⟨hcount, hne, hes⟩ := he
      refine .block hkey hlength hcount (mt List.map_eq_nil_iff.1 hne) fun f hf => ?_
      obtain ⟨e, he, rfl⟩ := List.mem_map.1 hf
      exact isWritable_decompilerEntry (hes e he)
    | processors count es =>
      obtain ⟨hcount, hne, hes⟩ := he
      refine .block hkey hlength hcount (mt List.map_eq_nil_iff.1 hne) fun f hf => ?_
      obtain ⟨e, he, rfl⟩ := List.mem_map.1 hf
      exact isWritable_processorEntry (hes e he)

/-- **The settings in a text are the default ones, with those replaced that it names.** -/
theorem ofYaml_fileText {es : List (Given SettingsEntry)} (hne : es ≠ []) (hes : AreWritable es) :
    (NamesOnce es →
        ofYaml (fileText es) = .ok (es.foldl (Given.change SettingsEntry.set) default)) ∧
      (¬ NamesOnce es → ∃ key place?,
        ofYaml (fileText es) = .error (.refused (.repeatedField key) place?)) := by
  have hwritable : ∀ line ∈ es.map entryLine, line.IsWritable := by
    intro line hline
    obtain ⟨e, he, rfl⟩ := List.mem_map.1 hline
    exact isWritable_entryLine (hes e he)
  obtain ⟨mark, items, hitems, hdocument⟩ :=
    ofString_lines (mt List.map_eq_nil_iff.1 hne) hwritable
  rw [List.flatMap_map] at hdocument
  have hrecord : IsRecord (fun e => e.line.key) SettingsEntry.set SettingsEntry.NamesOnce fields
      ⟨some (.mapping ⟨mark, none, none⟩ items true), none, true⟩ es
      (.mapping ⟨mark, none, none⟩ items true) :=
    ⟨mark, items, rfl, hitems.of_map.mono fun e he _ _ => changes_settingsEntry (hes e he)⟩
  obtain ⟨hok, hbad⟩ := record_given hrecord "struct SyncConfig" default .root
  rw [unrepeated_nil] at hok hbad
  rw [ofYaml, fileText, hdocument, Document.decode, decoder]
  constructor
  · intro honce
    simp only [hok honce]
    rfl
  · intro honce
    obtain ⟨key, place?, hrefused⟩ := hbad honce
    simp only [hrefused]
    exact ⟨key, place?, rfl⟩

/-- There is a colon in every line. -/
theorem colon_mem_chars (line : Line) : ':' ∈ line.chars := by
  cases line <;> simp [Line.chars, Field.chars]

theorem isAllBlank_fileText {es : List (Given SettingsEntry)} (hne : es ≠ []) :
    Text.isAllBlank (fileText es) = false := by
  obtain ⟨e, more, rfl⟩ := List.exists_cons_of_ne_nil hne
  have hcolon : Text.isBlank ':' = false := by decide +kernel
  rw [Text.isAllBlank, fileText, String.toList_ofList, List.all_eq_false]
  exact ⟨':', by simp [colon_mem_chars], by simp [hcolon]⟩

theorem ofBytes_toUTF8 (path : LocalPath) (s : String) : ofBytes path s.toUTF8 = ofText s := by
  have hback : String.fromUTF8? s.toUTF8 = some s := by
    rw [String.toUTF8_eq_toByteArray, String.fromUTF8?, dif_pos s.isValidUTF8]
    rfl
  rw [ofBytes, hback]

theorem load_eq_ofText {tree : FileTree} {path : LocalPath} {s : String}
    (hread : tree.read path = .ok s.toUTF8) : load tree (some path) = ofText s := by
  rw [load, hread]
  exact ofBytes_toUTF8 path s

/-- **A file overrides exactly what it names.** The entries come in any order, values are any texts
between double quotes, lists of them, depths below 2⁶⁴ or nothing, and other keys stand for
nothing. Naming a setting or a section twice is an error. -/
theorem load_named {tree : FileTree} {path : LocalPath} {es : List (Given SettingsEntry)}
    (hes : AreWritable es) (hread : tree.read path = .ok (fileText es).toUTF8) :
    (NamesOnce es →
        load tree (some path) = .ok (es.foldl (Given.change SettingsEntry.set) default)) ∧
      (¬ NamesOnce es → ∃ key place?,
        load tree (some path) = .error (.content (.refused (.repeatedField key) place?))) := by
  rw [load_eq_ofText hread, ofText]
  by_cases hne : es = []
  · subst hne
    refine ⟨fun _ => rfl, fun honce => absurd ⟨List.nodup_nil, ?_⟩ honce⟩
    exact fun _ h => absurd h List.not_mem_nil
  · obtain ⟨hok, hbad⟩ := ofYaml_fileText hne hes
    rw [isAllBlank_fileText hne]
    refine ⟨fun honce => ?_, fun honce => ?_⟩
    · rw [hok honce]
      rfl
    · obtain ⟨key, place?, hrefused⟩ := hbad honce
      rw [hrefused]
      exact ⟨key, place?, rfl⟩

/-- A tree with one file. -/
def configured (data : ByteArray) : FileTree :=
  (FileTree.workingIn (.text "here")).insert [.text "config.yaml", .text "here"] (.file data)

theorem read_configured (data : ByteArray) :
    (configured data).read ⟨"config.yaml"⟩ = .ok data := rfl

/-- A file that names four settings and holds two other keys. -/
def partialEntries : List (Given SettingsEntry) :=
  [.known (.processors 2 [.other ⟨"since", .number (-3)⟩, .known (.maxDepth (some 4)),
      .known (.excludedExtensions [])]),
    .other ⟨"note_1", .texts ["a", "b c"]⟩,
    .known (.reference none),
    .known (.repository "o/\"r\\")]

/-- The settings that are not named stay as they are, and a section that is named twice is an
error. -/
theorem load_named_partial :
    let path : LocalPath := ⟨"config.yaml"⟩
    let twice := partialEntries ++ [.known (.processors 1 [.known (.outputDir "out")])]
    AreWritable partialEntries ∧ NamesOnce partialEntries ∧
      load (configured (fileText partialEntries).toUTF8) (some path) =
        .ok { default with
          repository := "o/\"r\\"
          processors := { defaultProcessors with excludedExtensions := [], maxDepth := some 4 } } ∧
      ¬ NamesOnce twice ∧ ∃ key place?, load (configured (fileText twice).toUTF8) (some path) =
        .error (.content (.refused (.repeatedField key) place?)) := by
  intro path twice
  have hwritable : AreWritable partialEntries := by decide +kernel
  have honce : NamesOnce partialEntries := by decide +kernel
  have hwritable' : AreWritable twice := by decide +kernel
  have hnot : ¬ NamesOnce twice := by decide +kernel
  exact ⟨hwritable, honce, (load_named hwritable (read_configured _)).1 honce, hnot,
    (load_named hwritable' (read_configured _)).2 hnot⟩

example : fileText partialEntries =
    "processors:\n  since: -3\n  max_depth: 4\n  excluded_extensions: []\n" ++
      "note_1: [\"a\", \"b c\"]\nreference: null\nrepository: \"o/\\\"r\\\\\"\n" := by
  decide +kernel

/-- **A key of more than 1024 characters is not passed over.** The text breaks off behind it, and
what is left of the file is no mapping. -/
theorem load_longKey {tree : FileTree} {path : LocalPath} {f : Field} (hkey : IsKey f.key.toList)
    (hvalue : f.value.IsPrintable) (hlong : Scan.maxKeyLength < f.key.length)
    (hread : tree.read path = .ok (fileText [.other f]).toUTF8) :
    ∃ found place?, load tree (some path) =
      .error (.content (.refused (.wrongType found "struct SyncConfig") place?)) := by
  have hchars : fileText [.other f] = String.ofList (f.chars 0) :=
    congrArg String.ofList (List.append_nil _)
  obtain ⟨n, fault, hn, hdocument⟩ := ofString_longKey hkey hvalue hlong
  rw [load_eq_ofText hread, ofText, isAllBlank_fileText (List.cons_ne_nil _ _), ofYaml, hchars,
    hdocument]
  obtain ⟨mark, rfl⟩ := hn
  have hempty : isEmptyPlain (.scalar ⟨mark, none, none⟩ .plain f.key) = false := by
    rw [isEmptyPlain, String.isEmpty_eq_false_iff]
    intro h
    rw [h] at hlong
    exact absurd hlong (by decide)
  have hdecoder : ∀ d, decoder d .root (.scalar ⟨mark, none, none⟩ .plain f.key) =
      .error (.refused (.wrongType (.ofPlain f.key) "struct SyncConfig") (some (mark, .root))) := by
    intro d
    simp only [decoder, record, placed, resolved, Document.resolve, hempty]
    rfl
  rw [Document.decode]
  simp only [hdecoder]
  exact ⟨_, _, rfl⟩

/-- An identifier of 1025 characters, with a text. -/
def longField : Field := ⟨String.ofList (List.replicate 1025 'a'), .text "x"⟩

/-- Two files that repeat no key and are refused all the same: one whose only key means nothing but
is too long, and one with a depth below zero. -/
theorem load_refuses_unrepeated :
    (IsKey longField.key.toList ∧ longField.key ∉ SettingsEntry.keys ∧
      longField.value.IsPrintable ∧ NamesOnce [.other longField] ∧ ∀ s,
        load (configured (fileText [.other longField]).toUTF8) (some ⟨"config.yaml"⟩) ≠ .ok s) ∧
    ∀ s, load (configured "processors:\n  max_depth: -1\n".toUTF8) (some ⟨"config.yaml"⟩) ≠
      .ok s := by
  have hchars : longField.key.toList = List.replicate 1025 'a' := String.toList_ofList
  have hlength : longField.key.length = 1025 := by
    rw [← String.length_toList, hchars, List.length_replicate]
  have hkey : IsKey longField.key.toList := by
    rw [hchars, isKey_iff]
    have hdash : (List.replicate 1025 'a').head? ≠ some '-' := by
      rw [List.head?_replicate]
      decide
    refine ⟨?_, List.cons_ne_nil 'a' (List.replicate 1024 'a'), hdash⟩
    rw [List.all_replicate]
    decide
  have hother : longField.key ∉ SettingsEntry.keys := by
    intro hmem
    have hshort : ∀ key ∈ SettingsEntry.keys, key.length ≤ 10 := by decide
    exact absurd (hshort _ hmem) (by omega)
  have hvalue : longField.value.IsPrintable := by
    exact List.all_eq_true.1 (by decide : "x".toList.all isPrintable = true)
  have hlong : Scan.maxKeyLength < longField.key.length := by
    rw [hlength]
    decide
  refine ⟨⟨hkey, hother, hvalue, ⟨List.nodup_nil, by simp [Given.knownOnes]⟩, fun s hs => ?_⟩,
    fun s hs => ?_⟩
  · obtain ⟨found, place?, hrefused⟩ := load_longKey hkey hvalue hlong (read_configured _)
    rw [hrefused] at hs
    cases hs
  · have hrefused : (ofText "processors:\n  max_depth: -1\n").isOk = false := by decide +kernel
    rw [load_eq_ofText (read_configured _)] at hs
    rw [hs] at hrefused
    cases hrefused

end Settings

end Vendoring

import Vendoring.Disk
import Vendoring.Proofs.Replicate.Transcript

/-!
# What is left out of a copy

A walk leaves a file out by the extension of its remote path, where the case of ASCII letters makes
no difference; and it keeps a file in lower case, which is that of all letters. So a file can be
kept under an extension that was to be left out: `Ä` becomes `ä`, and the Kelvin sign becomes a
plain `k` (`kelvin_sign_slips_through`).

That is all that can happen (`replicate_leaves_out`). Lower case moves no dot, so the extension of
the place is the lower case of the extension of the remote path, and **the two are judged alike
unless the extension has a capital letter outside ASCII** that becomes part of an extension to leave
out. No list of ASCII extensions without a `k` is ever got around.
-/

set_option autoImplicit false

namespace Vendoring

open LocalPath

/-- The extension of the path is none of these, but its lower case is. -/
def SlipsThrough (extensions : List String) (remotePath : String) : Prop :=
  ∃ stem ext, stem ≠ [] ∧ '.' ∉ ext ∧
    fileName? ⟨remotePath⟩ = some (String.ofList (stem ++ '.' :: ext)) ∧
    (∀ x ∈ extensions, Text.equalIgnoringAsciiCase x (String.ofList ext) = false) ∧
    ∃ x ∈ extensions, Text.equalIgnoringAsciiCase x
      (String.ofList (Text.lowerCharsAfter ('.' :: stem.reverse) ext)) = true

section

variable {extensions : List String} {path : String}

/-! ## The extensions of a name and of its lower case -/

theorem isExcluded_of_extension {name ext : List Char}
    (hname : fileName? ⟨path⟩ = some (String.ofList name))
    (hext : extensionOfName? name = some ext) :
    isExcluded extensions path =
      extensions.any (Text.equalIgnoringAsciiCase · (String.ofList ext)) := by
  simp [isExcluded, extension?, hname, hext]

theorem isExcluded_of_no_extension {name : List Char}
    (hname : fileName? ⟨path⟩ = some (String.ofList name))
    (hext : extensionOfName? name = none) : isExcluded extensions path = false := by
  simp [isExcluded, extension?, hname, hext]

/-- **Lower case cuts a name at the same dot.** -/
theorem lowerChars_at_dot (stem ext : List Char) :
    ∃ lowered, (lowered = [] ↔ stem = []) ∧ Text.lowerChars (stem ++ '.' :: ext) =
      lowered ++ '.' :: Text.lowerCharsAfter ('.' :: stem.reverse) ext := by
  obtain ⟨lowered, hnil, heq⟩ := Text.lowerCharsAfter_append [] stem ('.' :: ext)
  refine ⟨lowered, hnil, ?_⟩
  have hdot : Text.lowerChar '.' = '.' := Text.lowerChar_of_ascii (by decide)
  rw [Text.lowerChars, heq, List.append_nil, Text.lowerCharsAfter, if_neg (by decide),
    if_neg (by decide), hdot]
  rfl

theorem extensionOfName?_lowerChars (stem : List Char) {ext : List Char} (hdot : '.' ∉ ext) :
    extensionOfName? (Text.lowerChars (stem ++ '.' :: ext)) =
      if stem = [] then none else some (Text.lowerCharsAfter ('.' :: stem.reverse) ext) := by
  obtain ⟨lowered, hnil, heq⟩ := lowerChars_at_dot stem ext
  rw [heq, extensionOfName?_append lowered (Text.not_mem_lowerCharsAfter (by decide) hdot _)]
  simp only [hnil]

/-- **A name and its lower case are judged alike, or the name slips through.** -/
theorem slipsThrough_iff {path' : String} {name : List Char}
    (hname : fileName? ⟨path⟩ = some (String.ofList name))
    (hlowered : fileName? ⟨path'⟩ = some (String.ofList (Text.lowerChars name))) :
    SlipsThrough extensions path ↔
      isExcluded extensions path' = true ∧ isExcluded extensions path = false := by
  constructor
  · rintro ⟨stem, ext, hstem, hdot, hname', hnone, x, hx, hequal⟩
    obtain rfl : name = stem ++ '.' :: ext :=
      String.ofList_injective (Option.some.inj (hname.symm.trans hname'))
    rw [isExcluded_of_extension hlowered
        ((extensionOfName?_lowerChars stem hdot).trans (if_neg hstem)),
      isExcluded_of_extension hname ((extensionOfName?_append stem hdot).trans (if_neg hstem))]
    exact ⟨List.any_eq_true.2 ⟨x, hx, hequal⟩, List.any_eq_false.2 fun x hx => by simp [hnone x hx]⟩
  · rintro ⟨hyes, hno⟩
    -- without a dot, or with one in front alone, the lower case has no extension
    rcases exists_last_dot name with hnot | ⟨stem, ext, rfl, hdot⟩
    · have hnot' : '.' ∉ Text.lowerChars name := Text.not_mem_lowerCharsAfter (by decide) hnot []
      rw [isExcluded_of_no_extension hlowered (extensionOfName?_of_not_mem hnot')] at hyes
      cases hyes
    · have hext := extensionOfName?_lowerChars stem hdot
      by_cases hstem : stem = []
      · rw [isExcluded_of_no_extension hlowered (hext.trans (if_pos hstem))] at hyes
        cases hyes
      · rw [isExcluded_of_extension hlowered (hext.trans (if_neg hstem)), List.any_eq_true] at hyes
        rw [isExcluded_of_extension hname ((extensionOfName?_append stem hdot).trans (if_neg hstem)),
          List.any_eq_false] at hno
        exact ⟨stem, ext, hstem, hdot, hname, fun x hx => by simpa using hno x hx, hyes⟩

theorem slipsThrough_iff_of_localPath? {remotePath : String} {place : LocalPath}
    (h : localPath? remotePath = some place) (base : LocalPath) :
    SlipsThrough extensions remotePath ↔
      isExcluded extensions (base.join place).text = true ∧
        isExcluded extensions remotePath = false := by
  obtain ⟨name, hname, hlowered⟩ := exists_fileName_of_localPath? h
  exact slipsThrough_iff hname (hlowered base)

/-! ## The letters that make the difference -/

/-- **What slips through has a capital letter outside ASCII in its extension**, and it gets around
an extension with a letter outside ASCII or a `k`. -/
theorem SlipsThrough.letters (h : SlipsThrough extensions path) :
    ∃ ext, extension? ⟨path⟩ = some ext ∧ (∃ c ∈ ext.toList, Text.isWideCapital c = true) ∧
      ∃ x ∈ extensions, ∃ c ∈ x.toList, 128 ≤ c.toNat ∨ c.toLower = 'k' := by
  obtain ⟨stem, ext, hstem, hdot, hname, hnone, x, hx, hequal⟩ := h
  have hwide : ∃ c ∈ ext, Text.isWideCapital c = true := by
    by_contra hall
    simp only [not_exists, not_and, Bool.not_eq_true] at hall
    rw [Text.equalIgnoringAsciiCase_lowered hall, hnone x hx] at hequal
    cases hequal
  have hext : extension? ⟨path⟩ = some (String.ofList ext) := by
    rw [extension?, hname, Option.bind_some, String.toList_ofList,
      extensionOfName?_append stem hdot, if_neg hstem, Option.map_some]
  refine ⟨String.ofList ext, hext, by simpa using hwide, x, hx, ?_⟩
  obtain ⟨c, hc, hcapital⟩ := hwide
  refine Text.exists_mark_of_equal hc ?_ hequal
  simp only [Text.isWideCapital, Bool.and_eq_true, decide_eq_true_eq] at hcapital
  exact hcapital.1

/-! ## What a walk keeps -/

/-- The path of the file that the call makes or writes. -/
def Event.target? : Event → Option LocalPath
  | touched path _ => some path
  | wrote path _ _ => some path
  | _ => none

variable {options : ReplicaOptions} {events : List Event}

/-- The file is kept for an entry that was read. -/
def KeptFor (options : ReplicaOptions) (events : List Event) (path : LocalPath) : Prop :=
  ∃ e url, ReadEntry events e ∧ filing options e = .kept url path

theorem KeptFor.append {path : LocalPath} (h : KeptFor options events path) (more : List Event) :
    KeptFor options (events ++ more) path := by
  obtain ⟨e, url, hread, hfiling⟩ := h
  exact ⟨e, url, hread.append more, hfiling⟩

theorem Regular.keptFor (h : Regular options events) {event : Event} (hevent : event ∈ events)
    {path : LocalPath} (htarget : event.target? = some path) : KeptFor options events path := by
  rcases h.mem_cases hevent with ⟨url, entries, rfl⟩ | ⟨url, path', data, ⟨hread, -⟩, hmem⟩
  · cases htarget
  · obtain ⟨e, hread, hfiling⟩ := hread
    have htargets : ∀ event ∈ keptEvents url path' data, ∀ path, event.target? = some path →
        path = path' := by
      simp [keptEvents, Event.target?, eq_comm]
    rw [htargets event hmem path htarget]
    exact ⟨e, url, hread, hfiling⟩

theorem LastPiece.keptFor {last : List Event} (h : LastPiece options events last) {event : Event}
    (hevent : event ∈ last) {path : LocalPath} (htarget : event.target? = some path) :
    KeptFor options events path := by
  cases h with
  | tooDeep => cases hevent
  | listing =>
    rw [List.mem_singleton.1 hevent] at htarget
    cases htarget
  | @file _ e hread hmore =>
    generalize hfiling : filing options e = f at hmore
    have htargets : ∀ event ∈ last, ∀ path, event.target? = some path →
        ∃ url, f = .kept url path := by
      cases hmore <;> simp [Event.target?, eq_comm]
    obtain ⟨url, rfl⟩ := htargets event hevent path htarget
    exact ⟨e, url, hread, hfiling⟩

theorem Broken.keptFor (h : Broken options events) {event : Event} (hevent : event ∈ events)
    {path : LocalPath} (htarget : event.target? = some path) : KeptFor options events path := by
  obtain ⟨before, last, hregular, hlast, rfl⟩ := h
  rcases List.mem_append.1 hevent with hevent | hevent
  · exact (hregular.keptFor hevent htarget).append last
  · exact (hlast.keptFor hevent htarget).append last

/-- **Every file that a walk makes or writes is kept for an entry that it read**, however the walk
ends. -/
theorem replicate_keptFor {σ : Type} (remote : Remote σ) (store : Store σ) (bound : Nat)
    (root : String) (world : σ) {event : Event} {path : LocalPath}
    (hevent : event ∈
      (replicate remote.heard store.heard options bound root ⟨world, []⟩).2.events)
    (htarget : event.target? = some path) :
    KeptFor options (replicate remote.heard store.heard options bound root ⟨world, []⟩).2.events
      path := by
  have hmeets : (replicate remote.heard store.heard options bound root).Meets
      (fun s => s.events = []) (fun _ s => Regular options s.events)
      (fun _ s => Broken options s.events) := replicate_regular bound root
  rcases hrun : replicate remote.heard store.heard options bound root ⟨world, []⟩ with
    ⟨fault | report, final⟩ <;> rw [hrun] at hevent
  · exact (hmeets.error rfl hrun).keptFor hevent htarget
  · exact (hmeets.ok rfl hrun).keptFor hevent htarget

end

/-- **A walk leaves out what has an extension to leave out, and what slips through is told by its
extension.** The place of a remote path is judged as the path itself exactly if the path does not
slip through, which takes a capital letter outside ASCII in its extension, and an extension to leave
out with a letter outside ASCII or a `k`. Every file that a walk makes or writes is kept for an entry
which is not to be left out, and its place is one to leave out exactly if the entry slips through. -/
theorem replicate_leaves_out {σ : Type} (remote : Remote σ) (store : Store σ)
    (options : ReplicaOptions) (bound : Nat) (root : String) (world : σ) :
    let excluded := isExcluded options.excludedExtensions
    let slipsThrough := SlipsThrough options.excludedExtensions
    let events := (replicate remote.heard store.heard options bound root ⟨world, []⟩).2.events
    (∀ remotePath place, localPath? remotePath = some place →
      ((excluded place.text = true → excluded remotePath = true) ↔ ¬ slipsThrough remotePath)) ∧
    (∀ remotePath, slipsThrough remotePath → ∃ ext, extension? ⟨remotePath⟩ = some ext ∧
      (∃ c ∈ ext.toList, Text.isWideCapital c = true) ∧
      ∃ x ∈ options.excludedExtensions, ∃ c ∈ x.toList, 128 ≤ c.toNat ∨ c.toLower = 'k') ∧
    ∀ event ∈ events, ∀ path, event.target? = some path →
      ∃ e url, ReadEntry events e ∧ filing options e = .kept url path ∧ excluded e.path = false ∧
        (excluded path.text = true ↔ slipsThrough e.path) := by
  intro excluded slipsThrough events
  refine ⟨?_, fun remotePath h => h.letters, ?_⟩
  · intro remotePath place hplace
    have hiff : slipsThrough remotePath ↔ _ := slipsThrough_iff_of_localPath? hplace ⟨""⟩
    rw [join_empty] at hiff
    rw [hiff, not_and, Bool.not_eq_false]
  · intro event hevent path htarget
    obtain ⟨e, url, hread, hfiling⟩ := replicate_keptFor remote store bound root world hevent htarget
    obtain ⟨-, hkept, place, hplace, rfl⟩ := filing_eq_kept_iff.1 hfiling
    have hiff : slipsThrough e.path ↔ _ := slipsThrough_iff_of_localPath? hplace options.outputDir
    exact ⟨e, url, hread, hfiling, hkept, fun h => hiff.2 ⟨h, hkept⟩, fun h => (hiff.1 h).1⟩

/-- A remote side with a file whose extension begins with the Kelvin sign. -/
def kelvinSide : Remote Unit where
  list _ := pure [⟨"Main.\u212At", "root/Main.\u212At", .file, some "content", ""⟩]
  fetch _ := pure .empty

/-- It is kept as `main.kt`, so it slips through where `kt` is to be left out. -/
theorem replicate_leaves_out_kelvinSide :
    ∃ e, ReadEntry (replicate kelvinSide.heard Store.idle.heard ⟨⟨"out"⟩, ["kt"], none⟩ 1 "root"
      ⟨(), []⟩).2.events e ∧ SlipsThrough ["kt"] e.path := by
  have htouched : .touched ⟨"out/main.kt"⟩ (.ok ()) ∈ (replicate kelvinSide.heard
      Store.idle.heard ⟨⟨"out"⟩, ["kt"], none⟩ 1 "root" ⟨(), []⟩).2.events := by
    decide +kernel
  obtain ⟨-, -, hfiles⟩ :=
    replicate_leaves_out kelvinSide Store.idle ⟨⟨"out"⟩, ["kt"], none⟩ 1 "root" ()
  obtain ⟨e, -, hread, -, -, hiff⟩ := hfiles _ htouched ⟨"out/main.kt"⟩ rfl
  exact ⟨e, hread, hiff.1 (by decide +kernel)⟩

/-- **An extension to leave out does reach the disk.** With `kt` to be left out, `main.kt` is kept
for a file whose own extension has the Kelvin sign in the place of the `k`. -/
theorem kelvin_sign_slips_through :
    (¬ ∀ (remote : Remote Unit) (extensions : List String) (bound : Nat) (root : String),
      ∀ event ∈ (replicate remote.heard Store.idle.heard ⟨⟨"out"⟩, extensions, none⟩ bound root
        ⟨(), []⟩).2.events, ∀ path, event.target? = some path →
          isExcluded extensions path.text = false) ∧
    ¬ ∀ extensions remotePath place, localPath? remotePath = some place →
      isExcluded extensions place.text = true → isExcluded extensions remotePath = true := by
  constructor
  · intro hall
    have hout := hall kelvinSide ["kt"] 1 "root" (.wrote ⟨"out/main.kt"⟩ .empty (.ok ()))
      (by decide +kernel) ⟨"out/main.kt"⟩ rfl
    exact absurd hout (by decide +kernel)
  · intro hall
    have hplace := hall ["kt"] "root/Main.\u212At" ⟨"main.kt"⟩ (by decide +kernel)
      (by decide +kernel)
    exact absurd hplace (by decide +kernel)

end Vendoring

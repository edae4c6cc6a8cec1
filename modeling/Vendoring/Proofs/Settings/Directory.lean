import Vendoring.Proofs.Settings.Reference
import Vendoring.Proofs.Url.Standing

/-!
# The directory in the address of a listing

The remote path is put into the address as it is, and the address is read afterwards. So although
every remote path gives one, **the address leads to the directory exactly if the remote path stands
for itself there** (`listingUrl_leadsTo_iff`). A reference and the service's own name never stand in
the way; a hash in the name of a directory does (`hash_leads_elsewhere`).
-/

set_option autoImplicit false

namespace Vendoring

namespace Url

/-- An address below an origin, without a fragment and with this query, whose path stands for these
characters. -/
structure LeadsTo (origin : List Char) (query? : Option (List Char)) (path : List Char)
    (address : List Char) : Prop where
  fragment : (splitAtMark '#' address).2 = none
  query : (splitAtMark '?' address).2 = query?
  path : ∃ written, (splitAtMark '?' address).1 = origin ++ written ∧
    percentDecode written = utf8 path

theorem Proper.leadsTo_iff {u : Url} (hu : Proper u) {origin written path : List Char}
    {query? : Option (List Char)} (hhierarchy : u.hierarchy = origin ++ written) :
    LeadsTo origin query? path u.chars ↔
      u.fragment = none ∧ u.query = query? ∧ percentDecode written = utf8 path := by
  have hhash := hu.splitAtMark_chars
  have hwithout (h : u.fragment = none) : splitAtMark '?' u.chars = (u.hierarchy, u.query) := by
    have hchars : u.chars = u.beforeFragment ++ marked ['#'] u.fragment := rfl
    rw [hchars, h, marked, List.append_nil, hu.splitAtMark_beforeFragment]
  constructor
  · rintro ⟨hfragment, hquery, written', hwritten', hpath⟩
    rw [hhash] at hfragment
    rw [hwithout hfragment] at hquery hwritten'
    obtain rfl := List.append_cancel_left (hhierarchy.symm.trans hwritten')
    exact ⟨hfragment, hquery, hpath⟩
  · rintro ⟨hfragment, hquery, hpath⟩
    refine ⟨by rw [hhash, hfragment], by rw [hwithout hfragment, hquery], written, ?_, hpath⟩
    rw [hwithout hfragment, hhierarchy]

end Url

namespace Settings

open Url

/-- The query of an address that has the reference in it and nothing else. -/
def referenceQuery (reference : Option String) : Option (List Char) :=
  match reference with
  | some r => if r.isEmpty then none else some ("ref=".toList ++ formEncode r.toList)
  | none => none

/-- The service has a plain domain name, and the repository a plain owner and a plain name. -/
structure IsPlain (s : Settings) (secure : Bool) (host owner name : List Char) : Prop where
  plainHost : PlainDomain host
  plainOwner : IsPlainSegment owner
  owner_ne_nil : owner ≠ []
  plainName : IsPlainSegment name
  name_ne_nil : name ≠ []
  apiBase : ∃ slashes, s.apiBase.toList = origin secure host ++ List.replicate slashes '/'
  repository : s.repository.toList = owner ++ '/' :: name

section

variable {s : Settings} {secure : Bool} {host owner name : List Char}

/-! ## The text of the address -/

/-- A text that ends with something else loses exactly the slashes behind it. -/
theorem withoutFinalSlashes_append {front : List Char} {last : Char} (hlast : last ≠ '/')
    (slashes : Nat) : withoutFinalSlashes (front ++ [last] ++ List.replicate slashes '/') =
      front ++ [last] := by
  have hdrop : (List.replicate slashes '/').dropWhile (· = '/') = [] :=
    List.dropWhile_eq_nil_iff.2 fun c hc => by simp [List.eq_of_mem_replicate hc]
  rw [withoutFinalSlashes, List.reverse_append, List.reverse_replicate, List.dropWhile_append,
    hdrop, List.isEmpty_nil, if_pos rfl, List.reverse_append, List.reverse_singleton,
    List.singleton_append, List.dropWhile_cons_of_neg (by simpa using hlast)]
  simp

theorem withoutFinalSlashes_of_allowed {cs : List Char} (hne : cs ≠ [])
    (h : ∀ c ∈ cs, isForbiddenAscii c = false) (front : List Char) (slashes : Nat) :
    withoutFinalSlashes (front ++ cs ++ List.replicate slashes '/') = front ++ cs := by
  have hlast : cs.getLast hne ≠ '/' := ne_of_isForbiddenAscii (h _ (List.getLast_mem hne)) rfl
  rw [← List.dropLast_append_getLast hne, ← List.append_assoc]
  exact withoutFinalSlashes_append hlast slashes

/-- What the path of the address begins with. -/
def frontSegments (owner name : List Char) : List (List Char) :=
  ["repos".toList, owner, name, "contents".toList]

theorem IsPlain.frontSegments (h : s.IsPlain secure host owner name) :
    ∀ segment ∈ frontSegments owner name, IsPlainSegment segment := by
  have hrepos : IsPlainSegment "repos".toList := List.all_eq_true.1 (by decide +kernel)
  have hcontents : IsPlainSegment "contents".toList := List.all_eq_true.1 (by decide +kernel)
  simp only [Settings.frontSegments, List.forall_mem_cons]
  exact ⟨hrepos, h.plainOwner, h.plainName, hcontents, nofun⟩

theorem IsPlain.listingText_eq (h : s.IsPlain secure host owner name) (remotePath : String) :
    s.listingText remotePath =
      origin secure host ++ pathChars (Settings.frontSegments owner name) ++
        '/' :: withoutOuterSlashes remotePath.toList := by
  obtain ⟨slashes, hbase⟩ := h.apiBase
  have hservice : withoutFinalSlashes s.apiBase.toList = origin secure host := by
    rw [hbase]
    exact withoutFinalSlashes_of_allowed h.plainHost.ne_nil (fun c => h.plainHost.allowed) _ slashes
  have hrepository : withoutOuterSlashes s.repository.toList = owner ++ '/' :: name := by
    have hfront : (owner ++ '/' :: name).dropWhile (· = '/') = owner ++ '/' :: name := by
      obtain ⟨c, rest, rfl⟩ := List.exists_cons_of_ne_nil h.owner_ne_nil
      have hc : c ≠ '/' := ne_of_isForbiddenAscii (h.plainOwner.allowed List.mem_cons_self) rfl
      exact List.dropWhile_cons_of_neg (by simpa using hc)
    have hback := withoutFinalSlashes_of_allowed h.name_ne_nil (fun c => h.plainName.allowed)
      (owner ++ ['/']) 0
    rw [withoutOuterSlashes, h.repository, hfront]
    simpa using hback
  rw [listingText, hservice, hrepository]
  simp [pathChars, Settings.frontSegments]

/-! ## The address -/

theorem proper_withReference {u : Url} (hu : Proper u) (reference : Option String) :
    Proper (withReference reference u) := by
  cases reference with
  | none => exact hu
  | some r =>
    rw [withReference]
    split
    · exact hu
    · exact hu.addParameter _ _

theorem query_withReference {u : Url} (hu : u.query = none) (reference : Option String) :
    (withReference reference u).query = referenceQuery reference := by
  cases reference with
  | none => exact hu
  | some r =>
    rw [withReference, referenceQuery]
    split
    · exact hu
    · show some (extendedQuery u.query _ _) = _
      rw [hu, extendedQuery, formPair_referenceName]

theorem withReference_eq (reference : Option String) (u : Url) :
    ∃ query?, withReference reference u = { u with query := query? } := by
  unfold withReference
  split
  · split
    · exact ⟨u.query, rfl⟩
    · exact ⟨_, rfl⟩
  · exact ⟨u.query, rfl⟩

/-- **Every remote path gives an address, and the address leads to the directory exactly if the
remote path stands for itself.** The service has a plain name, with slashes behind it or not, and
the repository too; the reference can be any, and so can the remote path, whose slashes at the ends
do not count. -/
theorem listingUrl_leadsTo_iff (h : s.IsPlain secure host owner name) (remotePath : String) :
    let directory := withoutOuterSlashes remotePath.toList
    ∃ address, s.listingUrl remotePath = .ok address ∧
      (LeadsTo (origin secure host) (referenceQuery s.reference)
          ("/repos/".toList ++ s.repository.toList ++ "/contents/".toList ++ directory)
          address.toList ↔
        StandsForItself directory) := by
  intro directory
  obtain ⟨u, hread, hscheme, hauthority, hpath, hwhole⟩ :=
    h.plainHost.ofChars_eq secure h.frontSegments directory
  have hdirectory : "/repos/".toList ++ s.repository.toList ++ "/contents/".toList ++ directory =
      pathChars (Settings.frontSegments owner name) ++ '/' :: directory := by
    rw [h.repository]
    simp [pathChars, Settings.frontSegments]
  refine ⟨(withReference s.reference u).text, ?_, ?_⟩
  · rw [listingUrl, h.listingText_eq remotePath]
    simp only [hread, directory]
  · obtain ⟨query?, hquery⟩ := withReference_eq s.reference u
    have hhierarchy : (withReference s.reference u).hierarchy = origin secure host ++ u.path := by
      rw [hquery]
      simp [hierarchy, shownPath, hscheme, hauthority, marked, origin]
    have hfragment : (withReference s.reference u).fragment = u.fragment := by rw [hquery]
    have htext : (withReference s.reference u).text.toList = (withReference s.reference u).chars :=
      String.toList_ofList
    rw [htext, (proper_withReference (.of_ofChars hread) s.reference).leadsTo_iff hhierarchy,
      hfragment, hdirectory, hpath, serviceKind, percentDecode_path_iff h.frontSegments]
    constructor
    · exact fun hleads => hleads.2.2
    · intro hstands
      obtain ⟨hnone, hfragment⟩ := hwhole hstands.whole
      exact ⟨hfragment, query_withReference hnone s.reference, hstands⟩

end

/-- The service and the repository that are used unless others are given have plain names. -/
theorem isPlain_default (reference : Option String) : IsPlain { default with reference } true
    "api.github.com".toList "NationalSecurityAgency".toList "ghidra".toList where
  plainHost := ⟨by decide +kernel, List.all_eq_true.1 (by decide +kernel), by decide +kernel,
    by decide +kernel⟩
  plainOwner := List.all_eq_true.1 (by decide +kernel)
  owner_ne_nil := by decide +kernel
  plainName := List.all_eq_true.1 (by decide +kernel)
  name_ne_nil := by decide +kernel
  apiBase := ⟨0, show default.apiBase.toList = _ by decide +kernel⟩
  repository := show default.repository.toList = _ by decide +kernel

/-- Blanks and letters outside ASCII are escaped, and nothing in the reference gets in the way. -/
theorem listingUrl_leadsTo_iff_umlaut :
    let s := { default with reference := some "v#1" }
    s.listingUrl "/docs/Über uns/" = .ok ("https://api.github.com/repos/NationalSecurityAgency/" ++
        "ghidra/contents/docs/%C3%9Cber%20uns?ref=v%231") ∧
      LeadsTo "https://api.github.com".toList (some "ref=v%231".toList)
        "/repos/NationalSecurityAgency/ghidra/contents/docs/Über uns".toList
        ("https://api.github.com/repos/NationalSecurityAgency/" ++
          "ghidra/contents/docs/%C3%9Cber%20uns?ref=v%231").toList := by
  intro s
  have hdirectory : withoutOuterSlashes "/docs/Über uns/".toList = "docs/Über uns".toList := by
    decide +kernel
  have hstands : StandsForItself "docs/Über uns".toList := by
    have hlines : "docs/Über uns".toList.any isLineOrTab = false := by decide +kernel
    refine ⟨⟨by decide +kernel, by decide +kernel, by simpa using hlines, ?_⟩, by decide +kernel,
      ?_, by decide +kernel⟩
    · have hlast : "docs/Über uns".toList.getLast? = some 's' := by decide +kernel
      rw [hlast]
      rintro _ ⟨⟩
      rfl
    · rintro ⟨a, b, -, -, hwithin⟩
      exact absurd (hwithin.subset List.mem_cons_self) (by decide +kernel)
  obtain ⟨address, haddress, hleads⟩ :=
    listingUrl_leadsTo_iff (isPlain_default (some "v#1")) "/docs/Über uns/"
  have hgiven : s.listingUrl "/docs/Über uns/" =
      .ok ("https://api.github.com/repos/NationalSecurityAgency/" ++
        "ghidra/contents/docs/%C3%9Cber%20uns?ref=v%231") := by decide +kernel
  obtain rfl := Except.ok.inj (hgiven.symm.trans haddress)
  have horigin : origin true "api.github.com".toList = "https://api.github.com".toList := by
    decide +kernel
  have hquery : referenceQuery (some "v#1") = some "ref=v%231".toList := by decide +kernel
  have hpath : "/repos/".toList ++ s.repository.toList ++ "/contents/".toList ++
      "docs/Über uns".toList =
        "/repos/NationalSecurityAgency/ghidra/contents/docs/Über uns".toList := by decide +kernel
  rw [hdirectory, horigin, hquery, hpath] at hleads
  exact ⟨hgiven, hleads.2 hstands⟩

/-- **A hash in the name of a directory leads elsewhere.** It is not so that the address leads to
every directory whose path has no empty segment: from `docs/C#` a fragment is made. -/
theorem hash_leads_elsewhere :
    ¬ ∀ (s : Settings) (secure : Bool) (host owner name : List Char),
      s.IsPlain secure host owner name → ∀ remotePath : String,
        let directory := withoutOuterSlashes remotePath.toList
        [] ∉ directory.splitOn '/' →
          ∃ address, s.listingUrl remotePath = .ok address ∧
            LeadsTo (origin secure host) (referenceQuery s.reference)
              ("/repos/".toList ++ s.repository.toList ++ "/contents/".toList ++ directory)
              address.toList := by
  intro hall
  obtain ⟨address, haddress, hleads⟩ :=
    hall _ _ _ _ _ (isPlain_default none) "docs/C#" (by decide +kernel)
  have hgiven : listingUrl { default with reference := none } "docs/C#" =
      .ok "https://api.github.com/repos/NationalSecurityAgency/ghidra/contents/docs/C#" := by
    decide +kernel
  obtain rfl := Except.ok.inj (hgiven.symm.trans haddress)
  exact absurd hleads.fragment (by decide +kernel)

end Settings

end Vendoring

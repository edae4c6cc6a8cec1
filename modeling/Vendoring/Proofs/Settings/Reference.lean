import Vendoring.Proofs.Url.Form
import Vendoring.Proofs.Url.Parts
import Vendoring.Settings.ListingUrl

/-!
# The reference in the address of a listing

Whether the settings give an address does not depend on the reference. If they do, **the reference
is put at the end of the address's query, and can be read back from there**
(`listingUrl_reference`), whatever characters it has and whatever else the address holds. An empty
reference is as good as none.
-/

set_option autoImplicit false

namespace Vendoring.Settings

open Url

theorem formPair_referenceName (r : List Char) :
    formPair referenceName r = "ref=".toList ++ formEncode r := by
  simp [formPair, referenceName, formEncode, plainInForm]

/-- **The reference becomes a parameter of the query.** -/
theorem text_withReference {u : Url} (hu : Proper u) {r : String} (hr : r ≠ "") :
    (withReference (some r) u).text =
      String.ofList (withParameter ("ref=".toList ++ formEncode r.toList) u.text.toList) := by
  have hadded : withReference (some r) u = u.addParameter referenceName r.toList :=
    if_neg (mt String.isEmpty_iff.1 hr)
  have hchars : u.text.toList = u.chars := String.toList_ofList
  rw [hadded, text, hu.chars_addParameter, formPair_referenceName, hchars]

/-- **The reference survives in the address.** It changes nothing about whether there is an address;
an empty one changes nothing at all; and any other one stands encoded at the end of the query. -/
theorem listingUrl_reference (s : Settings) (remotePath : String) :
    listingUrl { s with reference := some "" } remotePath =
      listingUrl { s with reference := none } remotePath ∧
    (∀ fault, listingUrl { s with reference := none } remotePath = .error fault →
      ∀ r, listingUrl { s with reference := some r } remotePath = .error fault) ∧
    (∀ address, listingUrl { s with reference := none } remotePath = .ok address → ∀ r, r ≠ "" →
      ∃ encoded, FormText encoded ∧ formDecode? encoded = some r.toList ∧
        listingUrl { s with reference := some r } remotePath =
          .ok (String.ofList (withParameter ("ref=".toList ++ encoded) address.toList))) := by
  have hgiven (reference : Option String) :
      listingText { s with reference } remotePath = s.listingText remotePath := rfl
  simp only [listingUrl, hgiven]
  cases hread : Url.ofChars (s.listingText remotePath) with
  | error cause => exact ⟨rfl, fun fault h r => h, fun address h => absurd h nofun⟩
  | ok u =>
    refine ⟨rfl, fun fault h => absurd h nofun, fun address h r hr => ?_⟩
    obtain rfl := Except.ok.inj h
    exact ⟨formEncode r.toList, formText_formEncode _, formDecode?_formEncode _,
      congrArg Except.ok (text_withReference (.of_ofChars hread) hr)⟩

/-- Settings for a service that is asked with a key, at an address with a fragment. -/
def keyed : Settings :=
  { default with apiBase := "https://example.org?key=1#top", repository := "owner/name" }

/-- The parameter is put in front of the fragment. -/
theorem listingUrl_reference_keyed :
    listingUrl keyed "cpp" =
      .ok "https://example.org/?key=1#top/repos/owner/name/contents/cpp" ∧
    ∃ encoded, FormText encoded ∧ formDecode? encoded = some "a&b #1".toList ∧
      listingUrl { keyed with reference := some "a&b #1" } "cpp" =
        .ok (String.ofList (withParameter ("ref=".toList ++ encoded)
          "https://example.org/?key=1#top/repos/owner/name/contents/cpp".toList)) := by
  have hbare : listingUrl keyed "cpp" =
      .ok "https://example.org/?key=1#top/repos/owner/name/contents/cpp" := by
    decide +kernel
  exact ⟨hbare, (listingUrl_reference keyed "cpp").2.2 _ hbare _ (by decide)⟩

end Vendoring.Settings

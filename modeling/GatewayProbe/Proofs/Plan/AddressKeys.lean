/-
The keys by which addresses are compared.

The blanks around an address are removed first, then the slashes at its end, and nothing after that.
So a blank that comes before slashes at the end stays in the key. Where there is none, the key is a
normal form: it is its own key, and slashes and blanks at the end of an address do not count.

* `HasGap` — a blank before the slashes at the end, `hasGap_iff` its place in the key;
* `SlashesApart`, `addressKey_eq_iff` — the addresses of one key;
* `addressKey_addressKey_iff` — the addresses whose key is its own key;
* `not_hasGap_append_iff` — which slashes and blanks do not count;
* `ModelRef.locate?_of_sameAddress` — where a reference leads;
* `addressKey_canonical_iff` — all of it, and the references that lead to an endpoint.
-/
import GatewayProbe.Plan.Basic
import GatewayProbe.Proofs.Plan.Serving
import GatewayProbe.Proofs.Text.Trimming

namespace GatewayProbe

open Text (isBlank trimChars dropEndWhile)

/-- Without the blanks around it, the address has a blank before the slashes at its end. -/
def HasGap (url : String) : Prop :=
  ∃ front b n, trimChars url.toList = front ++ b :: List.replicate n '/' ∧ isBlank b = true

/-- Without the blanks around them, the addresses differ in the slashes at their ends alone. -/
def SlashesApart (url other : String) : Prop :=
  ∃ core m n, trimChars url.toList = core ++ List.replicate m '/' ∧
    trimChars other.toList = core ++ List.replicate n '/'

/-- Slashes and blanks alone, in any order. -/
def IsTail (more : String) : Prop := ∀ c ∈ more.toList, c = '/' ∨ isBlank c = true

instance (more : String) : Decidable (IsTail more) :=
  List.decidableBAll (fun c => c = '/' ∨ isBlank c = true) more.toList

variable {url other more : String}

/-! ### The ends of a key -/

theorem toList_addressKey (url : String) :
    (addressKey url).toList = dropEndWhile (· = '/') (trimChars url.toList) :=
  String.toList_ofList

/-- A trimmed address is its key with slashes after it. -/
theorem exists_addressKey (url : String) :
    ∃ n, trimChars url.toList = (addressKey url).toList ++ List.replicate n '/' := by
  rw [toList_addressKey]
  exact Text.exists_slashes _

theorem getLast?_addressKey (url : String) : (addressKey url).toList.getLast? ≠ some '/' := by
  rw [toList_addressKey]
  exact Text.getLast?_dropEndWhile_slash _

/-- A key begins as the trimmed address does, so with no blank. -/
theorem head?_addressKey (url : String) :
    ∀ c ∈ (addressKey url).toList.head?, isBlank c = false := by
  obtain ⟨n, hn⟩ := exists_addressKey url
  obtain ⟨hfront, -⟩ := Text.trimChars_eq_self_iff.mp (Text.trimChars_trimChars url.toList)
  intro c hc
  refine hfront c ?_
  rw [hn, List.head?_append, hc]
  rfl

/-- The blank of a gap is the last character of the key. -/
theorem hasGap_iff : HasGap url ↔ ∃ c ∈ (addressKey url).toList.getLast?, isBlank c = true := by
  constructor
  · rintro ⟨front, b, n, htrim, hb⟩
    have hlast : (front ++ [b]).getLast? ≠ some '/' := by
      rw [List.getLast?_concat]
      rintro ⟨⟩
      cases hb
    have hkey : (addressKey url).toList = front ++ [b] := by
      rw [toList_addressKey, htrim, List.append_cons, Text.dropEndWhile_slashes,
        Text.dropEndWhile_slash_eq_self_iff.mpr hlast]
    exact ⟨b, hkey ▸ List.getLast?_concat, hb⟩
  · rintro ⟨b, hlast, hb⟩
    obtain ⟨n, hn⟩ := exists_addressKey url
    obtain ⟨front, hfront⟩ := List.getLast?_eq_some_iff.mp hlast
    exact ⟨front, b, n, by rw [hn, hfront, List.append_assoc, List.singleton_append], hb⟩

/-! ### Addresses of one key -/

theorem addressKey_eq_iff : addressKey url = addressKey other ↔ SlashesApart url other := by
  constructor
  · intro h
    obtain ⟨m, hm⟩ := exists_addressKey url
    obtain ⟨n, hn⟩ := exists_addressKey other
    exact ⟨_, m, n, h ▸ hm, hn⟩
  · rintro ⟨core, m, n, hm, hn⟩
    rw [addressKey, addressKey, hm, hn, Text.dropEndWhile_slashes, Text.dropEndWhile_slashes]

theorem addressKey_eq_self_iff : addressKey (addressKey url) = addressKey url ↔
    trimChars (addressKey url).toList = (addressKey url).toList := by
  constructor
  · intro h
    -- Trimming makes nothing longer, so no slash comes after the key.
    obtain ⟨n, hn⟩ := exists_addressKey (addressKey url)
    have hlength := (Text.trimChars_sublist (addressKey url).toList).length_le
    rw [hn, h, List.length_append, List.length_replicate] at hlength
    obtain rfl : n = 0 := by omega
    rw [hn, h, List.replicate_zero, List.append_nil]
  · intro h
    rw [addressKey, h, Text.dropEndWhile_slash_eq_self_iff.mpr (getLast?_addressKey url),
      String.ofList_toList]

/-- A key is its own key unless it ends with a blank. -/
theorem addressKey_addressKey_iff : addressKey (addressKey url) = addressKey url ↔ ¬HasGap url := by
  rw [addressKey_eq_self_iff, Text.trimChars_eq_self_iff, hasGap_iff,
    and_iff_right (head?_addressKey url)]
  push Not
  simp only [ne_eq, Bool.not_eq_true]

/-! ### More at the end -/

/-- Where there is no gap, slashes and blanks at the end have added slashes alone to the trimmed
address. -/
theorem slashesApart_append (tail : IsTail more) (h : ¬HasGap (url ++ more)) :
    SlashesApart (url ++ more) url := by
  obtain ⟨added, hadded, hmem⟩ := Text.exists_trimChars_append url.toList more.toList
  rw [← String.toList_append] at hadded
  obtain ⟨n, hn⟩ := Text.exists_slashes added
  cases hlast : (dropEndWhile (· = '/') added).getLast? with
  | none =>
    rw [List.getLast?_eq_none_iff.mp hlast, List.nil_append] at hn
    exact ⟨_, n, 0, hn ▸ hadded, (List.append_nil _).symm⟩
  | some b =>
    -- What comes before the slashes that were added is a blank, and this is a gap.
    obtain ⟨front, hfront⟩ := List.getLast?_eq_some_iff.mp hlast
    rw [hfront, List.append_assoc, List.singleton_append] at hn
    have hb : b ≠ '/' := by
      rintro rfl
      exact Text.getLast?_dropEndWhile_slash added hlast
    have hblank : isBlank b = true := by
      have hmore : b ∈ added := hn ▸ List.mem_append_right _ List.mem_cons_self
      rcases hmem b hmore with hblank | hb'
      · exact hblank
      · exact (tail b hb').resolve_left hb
    exact absurd ⟨_, b, n, by rw [hadded, hn, List.append_assoc], hblank⟩ h

/-- Slashes and blanks leave no gap exactly where they do not count and there was none before. -/
theorem not_hasGap_append_iff (tail : IsTail more) :
    ¬HasGap (url ++ more) ↔ ¬HasGap url ∧ addressKey (url ++ more) = addressKey url := by
  constructor
  · intro h
    have hkey := addressKey_eq_iff.mpr (slashesApart_append tail h)
    rw [hasGap_iff, hkey, ← hasGap_iff] at h
    exact ⟨h, hkey⟩
  · rintro ⟨h, hkey⟩
    rwa [hasGap_iff, hkey, ← hasGap_iff]

/-- Where some endpoint has the address that a reference gives, the reference leads to the first
that has. -/
theorem ModelRef.locate?_of_sameAddress {endpoints : List Endpoint} {e : Endpoint} {r : ModelRef}
    (he : e ∈ endpoints) (isAddress : r.isAddress = true) (same : r.SameAddress e) :
    ∃ before x after, endpoints = before ++ x :: after ∧
      locate? endpoints r = some (before.length, .url) ∧ r.SameAddress x ∧
      ∀ y ∈ before, ¬r.SameAddress y := by
  have hfound : (endpoints.findIdx? (·.hasUrl (addressKey r.endpoint))).isSome = true := by
    rw [List.findIdx?_isSome]
    exact List.any_eq_true.mpr ⟨e, he, Endpoint.hasUrl_iff.mpr same⟩
  obtain ⟨i, hi⟩ := Option.isSome_iff_exists.mp hfound
  obtain ⟨before, x, after, hendpoints, hlength, hx, hbefore⟩ := findIdx?_eq_some_iff_append.mp hi
  refine ⟨before, x, after, hendpoints, ?_, Endpoint.hasUrl_iff.mp hx, fun y hy hsame => ?_⟩
  · rw [locate?, if_pos isAddress, hi, hlength]
    rfl
  · exact Bool.eq_false_iff.mp (hbefore y hy) (Endpoint.hasUrl_iff.mpr hsame)

/-- **Keys of addresses.** A key begins with no blank and ends with no slash. It ends with a blank
exactly where the address has a gap, and only there it is not its own key. Two addresses have one
key if they differ in slashes at their ends alone, once the blanks around them are removed. Slashes
and blanks at the end of an address do not count unless they make a gap, and a gap never goes away
again. So where the address of an endpoint and that of a reference differ in such ends and neither
has a gap, the reference leads to the endpoint, or to one of the same key before it. -/
theorem addressKey_canonical_iff (url : String) :
    (∀ c ∈ (addressKey url).toList.head?, isBlank c = false) ∧
    (addressKey url).toList.getLast? ≠ some '/' ∧
    ((∃ c ∈ (addressKey url).toList.getLast?, isBlank c = true) ↔ HasGap url) ∧
    (addressKey (addressKey url) = addressKey url ↔ ¬HasGap url) ∧
    (∀ other, addressKey url = addressKey other ↔ SlashesApart url other) ∧
    (∀ more, IsTail more →
      (¬HasGap (url ++ more) ↔ ¬HasGap url ∧ addressKey (url ++ more) = addressKey url)) ∧
    ∀ (endpoints : List Endpoint), ∀ e ∈ endpoints, ∀ (r : ModelRef) (more more' : String),
      IsTail more → IsTail more' → e.url = some (url ++ more) → r.endpoint = url ++ more' →
      ¬HasGap (url ++ more) → ¬HasGap (url ++ more') → r.SameAddress e ∧
        (r.isAddress = true → ∃ before x after, endpoints = before ++ x :: after ∧
          locate? endpoints r = some (before.length, .url) ∧ r.SameAddress x ∧
          ∀ y ∈ before, ¬r.SameAddress y) := by
  refine ⟨head?_addressKey url, getLast?_addressKey url, hasGap_iff.symm,
    addressKey_addressKey_iff, fun other => addressKey_eq_iff,
    fun more tail => not_hasGap_append_iff tail, ?_⟩
  intro endpoints e he r more more' tail tail' hurl hr h h'
  obtain ⟨-, hkey⟩ := (not_hasGap_append_iff tail).mp h
  obtain ⟨-, hkey'⟩ := (not_hasGap_append_iff tail').mp h'
  have same : r.SameAddress e := ⟨_, hurl, by rw [hr, hkey, hkey']⟩
  exact ⟨same, fun isAddress => ModelRef.locate?_of_sameAddress he isAddress same⟩

/-- An endpoint with slashes and blanks after its address. -/
def trailedEndpoint : Endpoint := { name := "a", type := "ollama", url := some "http://a:1// \t" }

/-- Slashes, then blanks, make no gap. -/
theorem addressKey_canonical_iff_trailed :
    IsTail "// \t" ∧ ¬HasGap ("http://a:1" ++ "// \t") ∧
      addressKey ("http://a:1" ++ "// \t") = addressKey "http://a:1" ∧
      ModelRef.SameAddress { endpoint := "http://a:1/" } trailedEndpoint := by
  have tail : IsTail "// \t" := by decide
  have hgap : ¬HasGap ("http://a:1" ++ "// \t") := addressKey_addressKey_iff.mp (by decide)
  have hgap' : ¬HasGap ("http://a:1" ++ "/") := addressKey_addressKey_iff.mp (by decide)
  obtain ⟨-, -, -, -, -, htail, hmeet⟩ := addressKey_canonical_iff "http://a:1"
  obtain ⟨same, -⟩ := hmeet [trailedEndpoint] _ List.mem_cons_self { endpoint := "http://a:1/" }
    "// \t" "/" tail (by decide) rfl (by decide) hgap hgap'
  exact ⟨tail, hgap, ((htail _ tail).mp hgap).2, same⟩

/-- A blank and a slash at the end of an address. The key ends with the blank, its own key does not,
and a model that lists this address is not bound to the endpoint at the address without them. -/
theorem addressKey_gap :
    IsTail " /" ∧ addressKey ("http://a:1" ++ " /") = "http://a:1 " ∧ isBlank ' ' = true ∧
    addressKey (addressKey ("http://a:1" ++ " /")) = "http://a:1" ∧
    addressKey "http://a:1" = "http://a:1" ∧
    (assign [{ name := "a", type := "ollama", url := some "http://a:1" }]
      [{ id := "m", refs := [{ endpoint := "http://a:1" ++ " /" }] }] .standard {}).bindings = [] := by
  decide +kernel

end GatewayProbe

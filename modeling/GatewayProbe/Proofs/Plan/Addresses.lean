/-
Models that list an endpoint by its address.

An endpoint may have any text for its address, and a model may list that text, with slashes more or
less at its end. The model is then bound to the endpoint if the text has the form of an address; one
without `://` is taken for a name, so it leads to the endpoint only where it is its name too.

* `ModelRef.Spells` — a reference gives an address, up to slashes at its end;
* `ModelRef.Spells.addressKey_eq` — then both have the same key;
* `ModelRef.Spells.leadsTo_iff` — and the reference leads to the endpoint exactly as said;
* `bound_at_address` — the models that are bound to it through such a reference.
-/
import GatewayProbe.Proofs.Inventory.Canonical
import GatewayProbe.Proofs.Plan.Order
import GatewayProbe.Proofs.Text.LetterCase

namespace GatewayProbe

open Text (IsBare isBlank trimChars dropEndWhile SameWord)

namespace Text

theorem IsBare.trimChars_eq {s : String} (h : IsBare s) : trimChars s.toList = s.toList :=
  trimChars_eq_self_iff.mpr ⟨h.front, h.back⟩

theorem IsBare.trim_eq {s : String} (h : IsBare s) : trim s = s := by
  rw [trim, h.trimChars_eq, String.ofList_toList]

/-- Slashes at the end of a bare text are no blanks. -/
theorem IsBare.append_slashes {s t : String} (h : IsBare s) {n : Nat}
    (ht : t.toList = s.toList ++ List.replicate n '/') : IsBare t := by
  have hfilled : s.toList ≠ [] := fun hnil => h.filled (String.toList_eq_nil_iff.mp hnil)
  refine ⟨fun hempty => ?_, fun c hc => ?_, fun c hc => ?_⟩
  · rw [hempty, String.toList_empty] at ht
    exact hfilled (List.append_eq_nil_iff.mp ht.symm).1
  · rw [ht, List.head?_append_of_ne_nil _ hfilled] at hc
    exact h.front c hc
  · rw [ht] at hc
    -- The last character is that of the shorter text, or a slash.
    cases n with
    | zero =>
      rw [List.replicate_zero, List.append_nil] at hc
      exact h.back c hc
    | succ n =>
      rw [List.replicate_succ', ← List.append_assoc, List.getLast?_concat] at hc
      cases hc
      decide

end Text

/-- A reference gives an address, with any number of slashes more at its end, or less if it has no
blanks at its ends. -/
inductive ModelRef.Spells (r : ModelRef) (url : String) : Prop
  | more (n : Nat) (same : r.endpoint.toList = url.toList ++ List.replicate n '/')
  | less (n : Nat) (bare : IsBare r.endpoint)
      (same : url.toList = r.endpoint.toList ++ List.replicate n '/')

namespace ModelRef.Spells

variable {r : ModelRef} {url : String} {endpoints : List Endpoint} {e : Endpoint}

theorem isBare (h : r.Spells url) (hurl : IsBare url) : IsBare r.endpoint := by
  cases h with
  | more n same => exact hurl.append_slashes same
  | less n bare _ => exact bare

theorem addressKey_eq (h : r.Spells url) (hurl : IsBare url) :
    addressKey r.endpoint = addressKey url := by
  rw [addressKey, addressKey, (h.isBare hurl).trimChars_eq, hurl.trimChars_eq]
  cases h with
  | more n same => rw [same, Text.dropEndWhile_slashes]
  | less n _ same => rw [same, Text.dropEndWhile_slashes]

/-- A reference that spells the address of an endpoint leads to it if it has the form of an address
or is its name. -/
theorem leadsTo_iff (h : r.Spells url) (hurl : IsBare url)
    (distinctKeys : (endpoints.filterMap Endpoint.key?).Nodup) (he : e ∈ endpoints)
    (heurl : e.url = some url) :
    r.LeadsTo endpoints e ↔ "://".toList <:+: r.endpoint.toList ∨ e.name = r.endpoint := by
  have haddress : r.isAddress = true ↔ "://".toList <:+: r.endpoint.toList := Text.contains_iff
  rw [ModelRef.leadsTo_iff distinctKeys, ← haddress, (h.isBare hurl).trim_eq, and_iff_right he]
  by_cases hform : r.isAddress = true
  · rw [if_pos hform]
    exact iff_of_true ⟨url, heurl, (h.addressKey_eq hurl).symm⟩ (.inl hform)
  · rw [if_neg hform]
    exact (or_iff_right hform).symm

/-- A model whose one reference is the address of an endpoint is served there if that has the form
of an address or is the name, or else if it is no name at all and the type hint fits. -/
theorem servedBy_iff (h : r.Spells url) (hurl : IsBare url)
    (distinctKeys : (endpoints.filterMap Endpoint.key?).Nodup) (he : e ∈ endpoints)
    (heurl : e.url = some url) {m : Model} (sole : m.refs = [r]) :
    m.ServedBy endpoints e ↔
      ("://".toList <:+: r.endpoint.toList ∨ e.name = r.endpoint) ∨
      (∀ x ∈ endpoints, x.name ≠ r.endpoint) ∧
        ∃ type, m.typeHint = some type ∧ SameWord e.type type := by
  have hleads := h.leadsTo_iff hurl distinctKeys he heurl
  have hlisted (r' : ModelRef) : r' ∈ m.refs ↔ r' = r := by rw [sole, List.mem_singleton]
  by_cases hform : "://".toList <:+: r.endpoint.toList
  · exact iff_of_true (.reference r ((hlisted r).mpr rfl) (hleads.mpr (.inl hform)))
      (.inl (.inl hform))
  -- A reference in no form of an address is looked up among the names, and so it is lost where no
  -- endpoint goes by it.
  · have hplain : ¬r.isAddress = true := mt Text.contains_iff.mp hform
    have hname (x : Endpoint) : r.LeadsTo endpoints x ↔ x ∈ endpoints ∧ x.name = r.endpoint := by
      rw [ModelRef.leadsTo_iff distinctKeys, if_neg hplain, (h.isBare hurl).trim_eq]
    constructor
    · rintro (⟨r', listed, leads⟩ | ⟨lost, type, hint, same⟩)
      · exact .inl (hleads.mp ((hlisted r').mp listed ▸ leads))
      · refine .inr ⟨fun x hx hxname => ?_, type, hint, Text.eqIgnoreCase_iff_sameWord.mp same⟩
        exact lost r ((hlisted r).mpr rfl) x ((hname x).mpr ⟨hx, hxname⟩)
    · rintro (hreached | ⟨unnamed, type, hint, same⟩)
      · exact .reference r ((hlisted r).mpr rfl) (hleads.mpr hreached)
      · refine .typeHint (fun r' listed x leads => ?_) type hint
          (Text.eqIgnoreCase_iff_sameWord.mpr same)
        obtain ⟨hx, hxname⟩ := (hname x).mp ((hlisted r').mp listed ▸ leads)
        exact unnamed x hx hxname

end ModelRef.Spells

/-- **Bound at an address.** Let the endpoints of a page have distinct addresses, up to what does
not count. A model that can chat is bound to a healthy endpoint where one of its references spells
the address of that, if the reference has the form of an address or is the endpoint's name. Without
that the address does not count: with this reference alone, a model is bound only where no endpoint
goes by that name, and through its type hint. -/
theorem bound_at_address (body : String) (endpoints : List Endpoint)
    (hread : readEndpoints body = .ok endpoints)
    (distinctKeys : (endpoints.filterMap Endpoint.key?).Nodup) (models : List Model)
    (modes : ModeTables) (options : AssignOptions) (e : Endpoint) (he : e ∈ endpoints)
    (url : String) (heurl : e.url = some url) (r : ModelRef) (hr : r.Spells url) :
    ("://".toList <:+: r.endpoint.toList ∨ e.name = r.endpoint → e.isUp →
      ∀ m ∈ models, m.embeds = false → r ∈ m.refs →
        ∃ b ∈ (assign endpoints models modes options).bindings,
          b.endpoint = e.name ∧ b.model = m.id) ∧
    ∀ m : Model, m.embeds = false → m.refs = [r] →
      ((∃ b ∈ (assign endpoints [m] modes options).bindings,
          b.endpoint = e.name ∧ b.model = m.id) ↔
        e.isUp ∧
          (("://".toList <:+: r.endpoint.toList ∨ e.name = r.endpoint) ∨
            (∀ x ∈ endpoints, x.name ≠ r.endpoint) ∧
              ∃ type, m.typeHint = some type ∧ SameWord e.type type)) := by
  obtain ⟨normal, distinct⟩ := readEndpoints_normal hread
  have hurl : IsBare url := (normal e he).isBare.2.2.2 url heurl
  refine ⟨fun hform up m hm chats listed => ?_, fun m chats sole => ?_⟩
  · have leads := (hr.leadsTo_iff hurl distinctKeys he heurl).mpr hform
    exact (exists_binding_iff distinct he).mpr ⟨up, m, hm, rfl, chats, .reference r listed leads⟩
  · rw [exists_binding_iff distinct he, ← hr.servedBy_iff hurl distinctKeys he heurl sole]
    refine and_congr_right fun _ => ⟨fun ⟨m', hm', _, _, served⟩ => ?_, fun served => ?_⟩
    · obtain rfl := List.mem_singleton.mp hm'
      exact served
    · exact ⟨m, List.mem_singleton_self m, rfl, chats, served⟩

/-- A page of two endpoints, one at an address with slashes at its end, one at a text without
`://`. -/
def mixedPage : String :=
  "\x7b\"endpoints\":[\x7b\"name\":\"a\",\"url\":\"http://h:1/\",\"status\":\"healthy\"\x7d," ++
    "\x7b\"name\":\"b\",\"type\":\"ollama\",\"url\":\"localhost:11434\"," ++
    "\"status\":\"healthy\"\x7d]\x7d"

/-- The endpoints of that page. -/
def mixedEndpoints : List Endpoint :=
  [{ name := "a", type := "unknown", url := some "http://h:1/" },
   { name := "b", type := "ollama", url := some "localhost:11434" }]

theorem bound_at_address_mixed :
    readEndpoints mixedPage = .ok mixedEndpoints ∧
    (mixedEndpoints.filterMap Endpoint.key?).Nodup ∧
    ∃ b ∈ (assign mixedEndpoints [{ id := "m", refs := [{ endpoint := "http://h:1" }] }]
      .standard {}).bindings, b.endpoint = "a" ∧ b.model = "m" := by
  have hread : readEndpoints mixedPage = .ok mixedEndpoints := by decide +kernel
  have hkeys : (mixedEndpoints.filterMap Endpoint.key?).Nodup := by decide
  have hspells : ModelRef.Spells { endpoint := "http://h:1" } "http://h:1/" :=
    .less 1 (Text.isBare_of_nonBlank? (s := "http://h:1") (by decide)) (by decide)
  have hbound := (bound_at_address mixedPage mixedEndpoints hread hkeys
    [{ id := "m", refs := [{ endpoint := "http://h:1" }] }] .standard {} _ List.mem_cons_self _ rfl
    _ hspells).1
  exact ⟨hread, hkeys, hbound (.inl (Text.contains_iff.mp (by decide))) (by decide) _
    List.mem_cons_self (by decide) List.mem_cons_self⟩

/-- The second endpoint is healthy, no other one has its address, and a model lists that address as
it stands. Yet the model is bound to nothing. -/
theorem unbound_at_address :
    readEndpoints mixedPage = .ok mixedEndpoints ∧
    (mixedEndpoints.filterMap Endpoint.key?).Nodup ∧
    (∃ e ∈ mixedEndpoints, e.isUp ∧ e.url = some "localhost:11434") ∧
    isEmbeddingId "m" = false ∧
    (assign mixedEndpoints [{ id := "m", refs := [{ endpoint := "localhost:11434" }] }]
      .standard {}).bindings = [] := by
  decide +kernel

end GatewayProbe

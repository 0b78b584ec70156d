/-
The endpoints of a discovery are read back from its document.

Whatever a gateway lists, what is read of it is in one form, and a list in that form is read as it
stands. So the endpoints that a discovery shows are those that a reader of its document gets.

* `Endpoint.IsNormal` — no text is blank or padded, and the count of models fits;
* `readEndpoints_normal` — the endpoints that are read are normal, and no two have the same name;
* `Endpoint.ofEntries_entry` — such endpoints are read as they stand;
* `readEndpoints_discoveryJson` — and so are those in the document of a discovery.
-/
import GatewayProbe.Proofs.Json.Records
import GatewayProbe.Proofs.Text.Trimming

namespace GatewayProbe

open Text (nonBlank? nonBlank?_self)

/-! ### The form of what is read -/

/-- An endpoint as it is read: no text of it is blank or padded. -/
structure Endpoint.IsNormal (e : Endpoint) : Prop where
  name : nonBlank? e.name = some e.name
  type : nonBlank? e.type = some e.type
  url : e.url.bind nonBlank? = e.url
  status : nonBlank? e.status = some e.status
  modelCount : e.modelCount < Decimal.word32

theorem nonBlank?_getD (s : String) :
    nonBlank? ((nonBlank? s).getD unknownName) = some ((nonBlank? s).getD unknownName) := by
  cases h : nonBlank? s with
  | none => decide +kernel
  | some t => exact nonBlank?_self h

theorem bind_nonBlank?_self (s : Option String) :
    (s.bind nonBlank?).bind nonBlank? = s.bind nonBlank? := by
  cases h : s.bind nonBlank? with
  | none => rfl
  | some t =>
    obtain ⟨text, -, htext⟩ := Option.bind_eq_some_iff.mp h
    exact nonBlank?_self htext

namespace Endpoint

theorem ofEntry_isNormal {entry : EndpointEntry} (h : entry.modelCount < Decimal.word32) :
    (ofEntry entry).IsNormal where
  name := nonBlank?_getD entry.name
  type := nonBlank?_getD entry.type
  url := bind_nonBlank?_self entry.url
  status := nonBlank?_getD entry.status
  modelCount := h

theorem mem_of_mem_firstOfName {e : Endpoint} {seen : List String} {es : List Endpoint}
    (h : e ∈ firstOfName seen es) : e ∈ es := by
  fun_induction firstOfName seen es with
  | case1 => exact h
  | case2 seen first rest hseen ih => exact List.mem_cons_of_mem _ (ih h)
  | case3 seen first rest hnew ih =>
    rcases List.mem_cons.mp h with rfl | h
    · exact List.mem_cons_self
    · exact List.mem_cons_of_mem _ (ih h)

theorem not_seen_of_mem_firstOfName {e : Endpoint} {seen : List String} {es : List Endpoint}
    (h : e ∈ firstOfName seen es) : e.name ∉ seen := by
  fun_induction firstOfName seen es with
  | case1 => cases h
  | case2 seen first rest hseen ih => exact ih h
  | case3 seen first rest hnew ih =>
    rcases List.mem_cons.mp h with rfl | h
    · exact fun hseen => hnew (List.contains_iff_mem.mpr hseen)
    · exact fun hseen => ih h (List.mem_cons_of_mem _ hseen)

theorem nodup_firstOfName (seen : List String) (es : List Endpoint) :
    ((firstOfName seen es).map name).Nodup := by
  fun_induction firstOfName seen es with
  | case1 => exact List.nodup_nil
  | case2 seen first rest hseen ih => exact ih
  | case3 seen first rest hnew ih =>
    rw [List.map_cons, List.nodup_cons]
    refine ⟨fun hmem => ?_, ih⟩
    obtain ⟨e, he, hname⟩ := List.mem_map.mp hmem
    exact not_seen_of_mem_firstOfName he (hname ▸ List.mem_cons_self)

/-- Endpoints under distinct names are all the first of their name. -/
theorem firstOfName_eq {seen : List String} {es : List Endpoint}
    (distinct : (es.map name).Nodup) (new : ∀ e ∈ es, e.name ∉ seen) :
    firstOfName seen es = es := by
  induction es generalizing seen with
  | nil => rfl
  | cons e rest ih =>
    obtain ⟨hname, hrest⟩ := List.nodup_cons.mp distinct
    obtain ⟨hnew, hlater⟩ := List.forall_mem_cons.mp new
    rw [firstOfName, if_neg (mt List.contains_iff_mem.mp hnew), ih hrest]
    intro other hother hmem
    rcases List.mem_cons.mp hmem with heq | hseen
    · exact hname (heq ▸ List.mem_map_of_mem hother)
    · exact hlater other hother hseen

/-- The entry that lists an endpoint. -/
def entry (e : Endpoint) : EndpointEntry := ⟨e.name, e.type, e.url, e.status, e.modelCount⟩

theorem ofEntry_entry {e : Endpoint} (h : e.IsNormal) : ofEntry e.entry = e := by
  rw [ofEntry, entry, h.name, h.type, h.url, h.status, Option.getD_some, Option.getD_some,
    Option.getD_some]

/-- Normal endpoints under distinct names are read as they are listed. -/
theorem ofEntries_entry {es : List Endpoint} (normal : ∀ e ∈ es, e.IsNormal)
    (distinct : (es.map name).Nodup) : ofEntries (es.map entry) = es := by
  have hmap : (es.map entry).map ofEntry = es := by
    rw [List.map_map]
    conv_rhs => rw [← List.map_id es]
    exact List.map_congr_left fun e he => ofEntry_entry (normal e he)
  rw [ofEntries, hmap, firstOfName_eq distinct fun e _ => List.not_mem_nil]

end Endpoint

/-! ### Reading a page -/

namespace Listing

theorem modelCount_lt {doc : Document} {entry : EndpointEntry}
    (h : endpointEntry? doc = some entry) : entry.modelCount < Decimal.word32 := by
  simp only [ endpointEntry?, Option.bind_eq_bind, Option.bind_eq_some_iff] at h
  obtain ⟨fields, -, name, -, type, -, url, -, status, -, count, hcount, hentry⟩ := h
  cases hentry
  exact Fields.lt_of_read hcount (by decide)

theorem modelCount_lt_of_mem {doc : Document} {entries : List EndpointEntry}
    (h : endpointEntries? doc = some entries) :
    ∀ entry ∈ entries, entry.modelCount < Decimal.word32 := by
  obtain ⟨fields, -, hread⟩ := Option.bind_eq_some_iff.mp h
  intro entry hentry
  obtain ⟨item, hitem⟩ := Fields.exists_of_mem_read hread hentry
  exact modelCount_lt hitem

end Listing

/-- What is read of a list of endpoints is normal, and no two of them have the same name. -/
theorem readEndpoints_normal {body : String} {endpoints : List Endpoint}
    (h : readEndpoints body = .ok endpoints) :
    (∀ e ∈ endpoints, e.IsNormal) ∧ (endpoints.map Endpoint.name).Nodup := by
  rw [readEndpoints, Listing.page] at h
  split at h
  · next entries hentries =>
    cases h
    obtain ⟨doc, -, hdoc⟩ := Option.bind_eq_some_iff.mp hentries
    refine ⟨fun e he => ?_, Endpoint.nodup_firstOfName _ _⟩
    obtain ⟨entry, hentry, rfl⟩ := List.mem_map.mp (Endpoint.mem_of_mem_firstOfName he)
    exact Endpoint.ofEntry_isNormal (Listing.modelCount_lt_of_mem hdoc entry hentry)
  · cases h

/-! ### The document of a discovery -/

theorem Endpoint.exact_json (e : Endpoint) : e.json.Exact := by
  refine .ofFields ?_
  simp [Json.Exact.text, Json.Exact.ofText?, Json.Exact.ofNat]

theorem exact_ofList {α : Type} {write : α → Json} (h : ∀ x, (write x).Exact) (xs : List α) :
    (Json.ofList write xs).Exact := by
  refine .array fun item hitem => ?_
  obtain ⟨x, -, rfl⟩ := List.mem_map.mp hitem
  exact h x

theorem exact_discoveryJson (s : Inventory) (r : Assignment) : (discoveryJson s r).Exact := by
  have hplan (p : Plan) : p.json.Exact := by
    refine .ofFields ?_
    simp [Json.Exact.text, Json.Exact.ofText?, Json.Exact.ofTexts]
  have hbinding (b : Binding) : b.json.Exact := by
    refine .ofFields ?_
    simp [Json.Exact.text]
  refine .ofFields ?_
  simp [exact_ofList Endpoint.exact_json, exact_ofList hplan, exact_ofList hbinding,
    Json.Exact.ofNat, Json.Exact.ofTexts]

/-- A normal endpoint is read as it is listed. -/
theorem Listing.endpointEntry?_of_tells {e : Endpoint} (normal : e.IsNormal) {doc : Document}
    (h : doc.Tells e.json) : endpointEntry? doc = some e.entry := by
  obtain ⟨known, hknown, htold⟩ :=
    h.exists_fields ["name", "type", "url", "status", "model_count"]
  have hfield {key : String} {value : Json} (hmem : (key, value) ∈
      ([("name", .text e.name), ("type", .text e.type), ("url", .ofText? e.url),
        ("status", .text e.status), ("model_count", .ofNat e.modelCount)] :
          List (String × Json))) : e.json.get? key = some value :=
    Json.get?_ofFields_of_mem (by simp) hmem
  have hname : known.read "name" "" Document.text? = some e.name :=
    htold.read (by simp) (hfield (by simp)) fun _ h => h.text?
  have htype : known.read "type" "" Document.text? = some e.type :=
    htold.read (by simp) (hfield (by simp)) fun _ h => h.text?
  have hurl : known.read "url" none (Document.optional? Document.text?) = some e.url :=
    htold.read (by simp) (hfield (by simp)) fun _ h => h.optional?
  have hstatus : known.read "status" "" Document.text? = some e.status :=
    htold.read (by simp) (hfield (by simp)) fun _ h => h.text?
  have hcount : known.read "model_count" 0 (Document.natural? Decimal.word32) =
      some e.modelCount :=
    htold.read (by simp) (hfield (by simp)) fun _ h => h.natural? normal.modelCount
  simp only [ endpointEntry?, hknown, hname, htype, hurl, hstatus, hcount, Option.bind_eq_bind,
    Option.bind_some, Endpoint.entry]
  rfl

/-- **The endpoints that a discovery shows are read back.** -/
theorem readEndpoints_discoveryJson (body : String) (endpoints : List Endpoint)
    (models : List Model) (r : Assignment) (h : readEndpoints body = .ok endpoints) :
    readEndpoints (discoveryJson ⟨endpoints, models⟩ r).pretty = .ok endpoints := by
  obtain ⟨normal, distinct⟩ := readEndpoints_normal h
  obtain ⟨doc, hparse, htells⟩ := (exact_discoveryJson ⟨endpoints, models⟩ r).parse?_pretty
  obtain ⟨known, hknown, htold⟩ := htells.exists_fields ["endpoints"]
  have hlist : (discoveryJson ⟨endpoints, models⟩ r).get? "endpoints" =
      some (.ofList Endpoint.json endpoints) := Json.get?_ofFields (by simp)
  have hentries : known.read "endpoints" [] (Document.list? Listing.endpointEntry?) =
      some (endpoints.map Endpoint.entry) := by
    refine htold.read (by simp) hlist fun part hpart => ?_
    exact hpart.list? fun e he doc hdoc => Listing.endpointEntry?_of_tells (normal e he) hdoc
  have hpage : (Document.parse? (discoveryJson ⟨endpoints, models⟩ r).pretty).bind
      Listing.endpointEntries? = some (endpoints.map Endpoint.entry) := by
    rw [hparse, Option.bind_some, Listing.endpointEntries?, hknown]
    exact hentries
  rw [readEndpoints, Listing.page, hpage]
  exact congrArg Except.ok (Endpoint.ofEntries_entry normal distinct)

/-- Padded texts, a name that is missing, and a name that occurs twice. -/
def loosePage : String :=
  "\x7b\"endpoints\": [" ++
    "\x7b\"name\": \" a \", \"type\": \"ollama\", \"url\": \" http://a:1\"\x7d, " ++
    "\x7b\"url\": \" \", \"model_count\": 3\x7d, \x7b\"name\": \"a\", \"type\": \"vllm\"\x7d]\x7d"

theorem readEndpoints_discoveryJson_loose :
    let endpoints : List Endpoint := [⟨"a", "ollama", some "http://a:1", "unknown", 0⟩,
      ⟨"unknown", "unknown", none, "unknown", 3⟩]
    readEndpoints loosePage = .ok endpoints ∧
      readEndpoints (discoveryJson ⟨endpoints, []⟩ (assign endpoints [] ⟨[], []⟩ {})).pretty =
        .ok endpoints :=
  have hread : readEndpoints loosePage = .ok _ := by decide +kernel
  ⟨hread, readEndpoints_discoveryJson loosePage _ [] _ hread⟩

end GatewayProbe

/-
Counting the models of a page and reading them.

A run looks at the page of models twice. Discovery reads its entries, from the list under `data` if
all items of it read and from the list under `models` otherwise. The record of the page counts the
items of what stands under `data`, whatever that is, and looks under `models` only where nothing
does. Both agree unless discovery has passed over something under `data`:

* `listedLength?_of_kept` — the count, by what the page writes last under either key;
* `exists_entries_of_read` — the list that models were read from;
* `Document.FallsShort` — what stands under `data` is not a list of so many items;
* `listedLength?_of_read` — the count and the models of one page, and the record of the count;
* `readUnifiedPage_hidden` — a page that is read and not counted.
-/
import GatewayProbe.Proofs.Inventory.ModelPages
import GatewayProbe.Run.Surface

namespace GatewayProbe

/-! ### The count of a page -/

namespace Document

/-- The number of items of a list. -/
def itemCount? : Document → Option Nat
  | .array items => some items.length
  | _ => none

/-- What is written last under `data` is not a list of `n` items or more. -/
def FallsShort (doc : Document) (n : Nat) : Prop :=
  ∃ value ∈ (doc.valuesUnder "data").getLast?, ∀ items, value = .array items → items.length < n

theorem itemCount?_eq_some_iff {value : Document} {n : Nat} :
    value.itemCount? = some n ↔ ∃ items, value = .array items ∧ items.length = n := by
  cases value with
  | array items => simp [itemCount?]
  | null | bool | number | text | object => simp [itemCount?]

theorem itemCount?_eq_none_iff {value : Document} :
    value.itemCount? = none ↔ ∀ items, value ≠ .array items := by
  cases value with
  | array items => simp [itemCount?]
  | null | bool | number | text | object => simp [itemCount?]

theorem itemCount?_of_kept {depth : Nat} {doc : Document} {value : Json}
    (h : doc.keepWithin depth = some value) :
    value.asItems?.map List.length = doc.itemCount? := by
  cases doc with
  | array items =>
    cases depth with
    | zero =>
      rw [keepWithin] at h
      cases h
    | succ depth =>
      rw [keepWithin] at h
      obtain ⟨values, hvalues, rfl⟩ := Option.map_eq_some_iff.mp h
      exact congrArg some (length_keepItems hvalues)
  | object fields =>
    cases depth with
    | zero =>
      rw [keepWithin] at h
      cases h
    | succ depth =>
      rw [keepWithin] at h
      obtain ⟨values, -, rfl⟩ := Option.map_eq_some_iff.mp h
      rfl
  | null | bool =>
    rw [keepWithin] at h
    cases h
    rfl
  | number | text =>
    rw [keepWithin] at h
    obtain ⟨content, -, rfl⟩ := Option.map_eq_some_iff.mp h
    rfl

/-- What a kept page writes under a key is kept as well. -/
theorem exists_kept_of_last {doc value : Document} {page : Json} {name : String}
    (h : doc.keep? = some page) (hlast : (doc.valuesUnder name).getLast? = some value) :
    ∃ kept, value.keepWithin (maxDepth - 1) = some kept ∧ page.get? name = some kept := by
  have hget : page.get? name = (doc.valuesUnder name).getLast?.bind (keepWithin (maxDepth - 1)) :=
    get?_keepWithin h name
  rw [hlast, Option.bind_some] at hget
  -- A page is kept only where all of its values are, so the last one under the name is.
  cases doc with
  | object fields =>
    obtain ⟨field, hfield, rfl⟩ := List.mem_map.mp (List.mem_of_getLast? hlast)
    have hkept := isSome_keep?_object_iff.mp (Option.isSome_of_eq_some h) field
      (List.mem_filter.mp hfield).1
    obtain ⟨kept, hkept⟩ := Option.isSome_iff_exists.mp hkept.2
    exact ⟨kept, hkept, hget.trans hkept⟩
  | null | bool | number | text | array => cases hlast

end Document

open Document (FallsShort itemCount? itemCount?_eq_some_iff itemCount?_eq_none_iff)

/-- What is written last under `data` is counted, and what is written last under `models` where
nothing stands under `data`. -/
theorem listedLength?_of_kept {doc : Document} {page : Json} (h : doc.keep? = some page) :
    listedLength? page =
      ((doc.valuesUnder "data").getLast? <|> (doc.valuesUnder "models").getLast?).bind
        itemCount? := by
  have hget (name : String) : page.get? name =
      (doc.valuesUnder name).getLast?.bind (Document.keepWithin (Document.maxDepth - 1)) :=
    Document.get?_keepWithin h name
  rw [listedLength?]
  cases hdata : (doc.valuesUnder "data").getLast? with
  | some value =>
    obtain ⟨kept, hkept, hvalue⟩ := Document.exists_kept_of_last h hdata
    rw [hvalue]
    exact Document.itemCount?_of_kept hkept
  | none =>
    rw [hget "data", hdata]
    cases hmodels : (doc.valuesUnder "models").getLast? with
    | some value =>
      obtain ⟨kept, hkept, hvalue⟩ := Document.exists_kept_of_last h hmodels
      rw [hvalue]
      exact Document.itemCount?_of_kept hkept
    | none =>
      rw [hget "models", hmodels]
      rfl

/-! ### The list that was read -/

section Read

variable {body : String} {doc : Document} {page : Json} {models : List Model}

/-- A list that reads is the one value under its key, and each item gives one entry. -/
theorem Listing.exists_items_of_unifiedUnder? {key : String} {entries : List UnifiedEntry}
    (kept : doc.keep?.isSome = true) (h : unifiedUnder? key doc = some entries) :
    ∃ items, doc.valuesUnder key = [.array items] ∧ items.length = entries.length := by
  cases doc with
  | object fields =>
    obtain ⟨value, hvalue, hlist⟩ := (unifiedUnder?_eq_some_iff (readable_of_kept kept)).mp h
    cases value with
    | array items =>
      have hmap := congrArg List.length (mapM_eq_some_iff.mp hlist)
      rw [List.length_map, List.length_map] at hmap
      exact ⟨items, hvalue, hmap⟩
    | null | bool | number | text | object => cases hlist
  | null | bool | number | text | array => cases h

/-- A page that is read is a document that can be kept. -/
theorem exists_page_of_read (h : readUnifiedPage body = .ok models) :
    ∃ doc page, Document.parse? body = some doc ∧ doc.keep? = some page := by
  rw [readUnifiedPage, Listing.page] at h
  split at h
  · next entries hentries =>
    obtain ⟨doc, hdoc, hentries⟩ := Option.bind_eq_some_iff.mp hentries
    obtain ⟨page, hpage, -⟩ := Option.bind_eq_some_iff.mp hentries
    exact ⟨doc, page, hdoc, hpage⟩
  · cases h

/-- The models of a page that is read are those of the entries under `data`, or of the entries under
`models` where those under `data` do not read. -/
theorem exists_entries_of_read (hdoc : Document.parse? body = some doc)
    (kept : doc.keep?.isSome = true) (h : readUnifiedPage body = .ok models) :
    ∃ entries, models = entries.filterMap Model.ofUnified? ∧
      (Listing.unifiedUnder? "data" doc = some entries ∨
        Listing.unifiedUnder? "data" doc = none ∧
          Listing.unifiedUnder? "models" doc = some entries) := by
  rw [readUnifiedPage_eq hdoc, Listing.unifiedEntries?_of_kept kept] at h
  split at h
  · next entries hfound =>
    cases h
    rw [Option.orElse_eq_orElse, Option.orElse_eq_or, Option.or_eq_some_iff] at hfound
    exact ⟨entries, rfl, hfound⟩
  · cases h

section Kept

variable (hdoc : Document.parse? body = some doc) (hpage : doc.keep? = some page)
  (h : readUnifiedPage body = .ok models)
include hdoc hpage h

/-- A page that writes something under `data` is counted by what it writes there last. Another page
that is read is counted by its list under `models`, which has an item for each model. -/
theorem listedLength?_cases :
    (∃ value, (doc.valuesUnder "data").getLast? = some value ∧
      listedLength? page = value.itemCount?) ∨
    (doc.valuesUnder "data").getLast? = none ∧
      ∃ n, listedLength? page = some n ∧ models.length ≤ n := by
  have hcount := listedLength?_of_kept hpage
  have kept : doc.keep?.isSome = true := Option.isSome_of_eq_some hpage
  cases hdata : (doc.valuesUnder "data").getLast? with
  | some value =>
    rw [hdata] at hcount
    exact .inl ⟨value, rfl, hcount⟩
  | none =>
    rw [hdata] at hcount
    -- Nothing stands under `data`, so no list was read from there.
    obtain ⟨entries, rfl, hread | ⟨-, hread⟩⟩ := exists_entries_of_read hdoc kept h
    · obtain ⟨items, hitems, -⟩ := Listing.exists_items_of_unifiedUnder? kept hread
      rw [hitems] at hdata
      cases hdata
    · obtain ⟨items, hitems, hlength⟩ := Listing.exists_items_of_unifiedUnder? kept hread
      rw [hitems] at hcount
      exact .inr ⟨rfl, items.length, hcount, hlength ▸ List.length_filterMap_le _ _⟩

theorem counted_iff :
    (∃ n, listedLength? page = some n ∧ models.length ≤ n) ↔ ¬ doc.FallsShort models.length := by
  rcases listedLength?_cases hdoc hpage h with ⟨value, hvalue, hcount⟩ | ⟨hnone, hcounted⟩
  · rw [hcount, FallsShort, hvalue]
    simp [itemCount?_eq_some_iff]
  · refine iff_of_true hcounted ?_
    rintro ⟨value, hvalue, -⟩
    rw [hnone] at hvalue
    cases hvalue

theorem listedLength?_eq_none_iff :
    listedLength? page = none ↔
      ∃ value ∈ (doc.valuesUnder "data").getLast?, ∀ items, value ≠ .array items := by
  rcases listedLength?_cases hdoc hpage h with ⟨value, hvalue, hcount⟩ | ⟨hnone, n, hcount, -⟩
  · rw [hcount, hvalue, itemCount?_eq_none_iff]
    simp
  · rw [hcount, hnone]
    simp

/-- Where `data` falls short of the models that were read, they were not read from there. -/
theorem unifiedUnder?_data_of_fallsShort (hshort : doc.FallsShort models.length) :
    Listing.unifiedUnder? "data" doc = none := by
  have kept : doc.keep?.isSome = true := Option.isSome_of_eq_some hpage
  obtain ⟨entries, rfl, hread | ⟨hnone, -⟩⟩ := exists_entries_of_read hdoc kept h
  · obtain ⟨items, hitems, hlength⟩ := Listing.exists_items_of_unifiedUnder? kept hread
    -- That list is the only value under `data`, and it has an item for each model.
    obtain ⟨value, hvalue, hfew⟩ := hshort
    rw [hitems] at hvalue
    cases hvalue
    have hle := List.length_filterMap_le Model.ofUnified? entries
    have hlt := hfew items rfl
    omega
  · exact hnone

end Kept

end Read

/-! ### The record of the count -/

theorem judgeModelList_eq_fail_iff {page : Json} :
    judgeModelList page = (.fail, "unexpected response structure") ↔
      listedLength? page = none := by
  rw [judgeModelList]
  cases listedLength? page <;> simp

theorem judgePage_of_text {budget : Nat} {r : Reply} {body : String} {page : Json}
    (hstatus : r.status = 200) (htext : r.text budget = .ok body)
    (hpage : Json.parse? body = some page) : judgePage budget (.ok r) = .ok page := by
  have hjson : r.json budget = .ok page := by
    rw [Reply.json, htext]
    simp only [bind, Except.bind, hpage]
    rfl
  rw [judgePage, if_neg (not_not_intro hstatus), hjson]

/-- **Counting the models of a page and reading them.** A page that discovery reads is JSON. Its
models are counted, and the count is no less than their number, exactly where what the page writes
last under `data` is not something else than a list of so many items. It is something else only
where the entries under `data` do not read and those under `models` were taken instead. The record
of a reply with this page says that the structure is unexpected exactly where something stands under
`data` and is no list. -/
theorem listedLength?_of_read (body : String) (models : List Model)
    (h : readUnifiedPage body = .ok models) :
    ∃ doc page, Document.parse? body = some doc ∧ Json.parse? body = some page ∧
      ((∃ n, listedLength? page = some n ∧ models.length ≤ n) ↔ ¬ doc.FallsShort models.length) ∧
      (doc.FallsShort models.length → Listing.unifiedUnder? "data" doc = none) ∧
      ∀ (budget : Nat) (r : Reply), r.status = 200 → r.text budget = .ok body →
        (pageRecord "models/list" (judgePage budget (.ok r)) judgeModelList =
            ⟨"models/list", .fail, "unexpected response structure"⟩ ↔
          ∃ value ∈ (doc.valuesUnder "data").getLast?, ∀ items, value ≠ .array items) := by
  obtain ⟨doc, page, hdoc, hkept⟩ := exists_page_of_read h
  have hpage : Json.parse? body = some page := by rw [Json.parse?, hdoc, Option.bind_some, hkept]
  refine ⟨doc, page, hdoc, hpage, counted_iff hdoc hkept h,
    unifiedUnder?_data_of_fallsShort hdoc hkept h, fun budget r hstatus htext => ?_⟩
  rw [judgePage_of_text hstatus htext hpage, ← listedLength?_eq_none_iff hdoc hkept h,
    ← judgeModelList_eq_fail_iff, pageRecord, Record.mk.injEq, Prod.ext_iff]
  simp

/-- The two models are listed under `models`; what stands under `data` is a list of one item that is
no entry. -/
def shortPage : String :=
  "\x7b\"data\":[1],\"models\":[\x7b\"id\":\"a\"\x7d,\x7b\"id\":\"b\"\x7d]\x7d"

theorem listedLength?_of_read_short :
    readUnifiedPage shortPage = .ok [⟨"a", [], none⟩, ⟨"b", [], none⟩] ∧
      ∃ page, Json.parse? shortPage = some page ∧
        ¬ ∃ n, listedLength? page = some n ∧ 2 ≤ n := by
  have hread : readUnifiedPage shortPage = .ok [⟨"a", [], none⟩, ⟨"b", [], none⟩] := by
    decide +kernel
  obtain ⟨doc, page, hdoc, hpage, hiff, -⟩ := listedLength?_of_read shortPage _ hread
  refine ⟨hread, page, hpage, fun hcounted => hiff.mp hcounted ?_⟩
  have hlast : ((Document.parse? shortPage).map fun doc =>
      (doc.valuesUnder "data").getLast?.bind itemCount?) = some (some 1) := by
    decide +kernel
  rw [hdoc, Option.map_some, Option.some_inj, Option.bind_eq_some_iff] at hlast
  obtain ⟨value, hvalue, hcount⟩ := hlast
  refine ⟨value, hvalue, fun items hitems => ?_⟩
  rw [hitems] at hcount
  rw [Option.some_inj.mp hcount]
  decide

/-- The model is listed under `models`, and what stands under `data` is null. -/
def hiddenPage : String := "\x7b\"data\":null,\"models\":[\x7b\"id\":\"a\"\x7d]\x7d"

theorem readUnifiedPage_hidden :
    readUnifiedPage hiddenPage = .ok [⟨"a", [], none⟩] ∧
      ∃ page, Json.parse? hiddenPage = some page ∧ listedLength? page = none ∧
        judgeModelList page = (.fail, "unexpected response structure") := by
  have hpage : Json.parse? hiddenPage = some (.object [("data", .null),
      ("models", .array [.object [("id", .text "a")]])]) := by
    cbv
  exact ⟨by decide +kernel, _, hpage, rfl, rfl⟩

end GatewayProbe

/-
Both sources list the same models, under whatever key.

The status page and the unified page are read by readers of their own, into raw entries of different
form, and the list of the unified page stands under one of two keys. Where an entry could be listed
by either source, the model is the same. The unified page is kept whole before either key is looked
at, so that a value which cannot be kept makes it unreadable wherever it stands.

* `LooseEntry`, `LooseEntry.ListedBy` — the entries that either source may list, and their pages;
* `Listing.unifiedUnder?_eq_some_iff` — a list is read under a key exactly where the page writes one
  value there, a list whose items all read;
* `Listing.unifiedText?`, `Listing.unifiedId?`, `Listing.unifiedRefs` — what an item of the unified
  page comes to, and `Model.TellsOf` — the model of it;
* `modelPages_agree` — the sources, the keys, both keys at once, and the models of a page.
-/
import Mathlib
import GatewayProbe.Inventory.Listing
import GatewayProbe.Proofs.Json.Parts
import GatewayProbe.Proofs.Text.Trimming

namespace GatewayProbe

open Document (textOf? text? optional? list? listed)
open Text (nonBlank? IsBare isBare_of_nonBlank?)

/-! ### Entries that either source may list -/

/-- A model as either source may list it: any field may be missing, and the type may be null. -/
structure LooseEntry where
  name : Option String := none
  type : Option (Option String) := none
  endpoints : Option (List String) := none

namespace LooseEntry

/-- An object has these fields, each once and in any order, and no others. -/
structure WrittenBy (e : LooseEntry) (fields : List (List Piece × Document)) : Prop where
  keys : ∀ field ∈ fields, textOf? field.1 ∈ [some "name", some "type", some "endpoints"]
  name : ((Document.object fields).valuesUnder "name").map text? = e.name.toList.map some
  type : ((Document.object fields).valuesUnder "type").map (optional? text?) =
    e.type.toList.map some
  endpoints : ((Document.object fields).valuesUnder "endpoints").map (list? text?) =
    e.endpoints.toList.map some

/-- The page is an object with one field, the list of these entries under the key. -/
def ListedBy (entries : List LooseEntry) (key : String) (body : String) : Prop :=
  ∃ pieces objects,
    Document.parse? body = some (.object [(pieces, .array (objects.map Document.object))]) ∧
    textOf? pieces = some key ∧ List.Forall₂ WrittenBy entries objects

/-- The model of an entry, unless it has no name. -/
def model? (e : LooseEntry) : Option Model :=
  (e.name.bind nonBlank?).map fun id =>
    ⟨id, ModelRef.ofTexts (e.endpoints.getD []), (e.type.getD none).bind nonBlank?⟩

/-- The entry as the status page gives it. -/
def status (e : LooseEntry) : StatusEntry := ⟨e.name.getD "", e.type.getD none, e.endpoints.getD []⟩

/-- The entry as the unified page gives it. -/
def unified (e : LooseEntry) : UnifiedEntry :=
  ⟨none, e.name, e.type.getD none, [], e.endpoints.getD []⟩

theorem ofStatus?_status (e : LooseEntry) : Model.ofStatus? e.status = e.model? := by
  obtain ⟨name, type, endpoints⟩ := e
  cases name with
  | none => rfl
  | some name => rfl

theorem ofUnified?_unified (e : LooseEntry) : Model.ofUnified? e.unified = e.model? := rfl

section Written

variable {e : LooseEntry} {fields : List (List Piece × Document)}

theorem WrittenBy.readable (h : e.WrittenBy fields) :
    ∀ field ∈ fields, (textOf? field.1).isSome = true := by
  intro field hfield
  have hkey := h.keys field hfield
  simp only [List.mem_cons, List.not_mem_nil, or_false] at hkey
  rcases hkey with hkey | hkey | hkey <;> rw [hkey] <;> rfl

theorem WrittenBy.valuesUnder_other (h : e.WrittenBy fields) {name : String}
    (hname : name ∉ ["name", "type", "endpoints"]) :
    (Document.object fields).valuesUnder name = [] := by
  refine Document.valuesUnder_eq_nil fun field hfield hkey => hname ?_
  have hmem := h.keys field hfield
  rw [hkey] at hmem
  simpa using hmem

theorem WrittenBy.exists_known (h : e.WrittenBy fields) (names : List String) :
    ∃ known, (Document.object fields).fields? names = some known := by
  refine Document.exists_objectFields? h.readable fun name _ => ?_
  by_cases hname : name ∈ ["name", "type", "endpoints"]
  · simp only [List.mem_cons, List.not_mem_nil, or_false] at hname
    rcases hname with rfl | rfl | rfl
    · exact Fields.length_values_le h.name
    · exact Fields.length_values_le h.type
    · exact Fields.length_values_le h.endpoints
  · rw [h.valuesUnder_other hname]
    exact Nat.zero_le 1

theorem WrittenBy.statusEntry? (h : e.WrittenBy fields) :
    Listing.statusEntry? (.object fields) = some e.status := by
  obtain ⟨known, hknown⟩ := h.exists_known ["name", "type", "endpoints"]
  have hname : known.read "name" "" text? = some (e.name.getD "") :=
    Fields.read_of_values (Document.fields?_found hknown (by simp)) h.name
  have htype : known.read "type" none (optional? text?) = some (e.type.getD none) :=
    Fields.read_of_values (Document.fields?_found hknown (by simp)) h.type
  have hendpoints : known.read "endpoints" [] (list? text?) = some (e.endpoints.getD []) :=
    Fields.read_of_values (Document.fields?_found hknown (by simp)) h.endpoints
  simp only [ Listing.statusEntry?, hknown, hname, htype, hendpoints, Option.bind_eq_bind,
    Option.bind_some]
  rfl

/-- A text that may be null as well is read as it is. -/
theorem optional_of_values {values : List Document} {written : Option String}
    (h : values.map text? = written.toList.map some) :
    values.map (optional? text?) = (written.map some).toList.map some := by
  cases written with
  | none => rw [List.map_eq_nil_iff.mp h]; rfl
  | some s =>
    obtain ⟨value, rest, rfl, hvalue, hrest⟩ := List.map_eq_cons_iff.mp h
    obtain rfl := List.map_eq_nil_iff.mp hrest
    cases value with
    | text pieces => exact congrArg (fun read : Option String => [read.map some]) hvalue
    | null | bool | number | array | object => cases hvalue

theorem WrittenBy.unifiedEntry? (h : e.WrittenBy fields) :
    Listing.unifiedEntry? (.object fields) = some e.unified := by
  obtain ⟨known, hknown⟩ := h.exists_known ["id", "name", "type", "olla", "endpoints"]
  have hid : known.read "id" none (optional? text?) = some none :=
    Fields.read_of_nil (Document.fields?_found hknown (by simp)) (h.valuesUnder_other (by simp))
  have hname : known.read "name" none (optional? text?) = some ((e.name.map some).getD none) :=
    Fields.read_of_values (Document.fields?_found hknown (by simp)) (optional_of_values h.name)
  have htype : known.read "type" none (optional? text?) = some (e.type.getD none) :=
    Fields.read_of_values (Document.fields?_found hknown (by simp)) h.type
  have holla : known.read "olla" none (optional? Listing.availability?) = some none :=
    Fields.read_of_nil (Document.fields?_found hknown (by simp)) (h.valuesUnder_other (by simp))
  have hendpoints : known.read "endpoints" [] (list? text?) = some (e.endpoints.getD []) :=
    Fields.read_of_values (Document.fields?_found hknown (by simp)) h.endpoints
  have hjoin : (e.name.map some).getD none = e.name := by cases e.name <;> rfl
  simp only [ Listing.unifiedEntry?, hknown, hid, hname, hjoin, htype, holla, hendpoints,
    Option.bind_eq_bind, Option.bind_some]
  rfl

/-- What an entry writes is nested two deep and can be kept. -/
theorem WrittenBy.isSome_keepWithin (h : e.WrittenBy fields) (depth : Nat) :
    ((Document.object fields).keepWithin (depth + 2)).isSome = true := by
  rw [Document.keepWithin, Option.isSome_map, Document.isSome_keepFields_iff]
  refine fun field hfield => ⟨h.readable field hfield, ?_⟩
  have hkey := h.keys field hfield
  simp only [List.mem_cons, List.not_mem_nil, or_false] at hkey
  rcases hkey with hkey | hkey | hkey
  · obtain ⟨s, hs⟩ := Fields.exists_of_mem_values h.name (Document.mem_valuesUnder hfield hkey)
    exact Document.isSome_keepWithin_of_text? hs
  · obtain ⟨s, hs⟩ := Fields.exists_of_mem_values h.type (Document.mem_valuesUnder hfield hkey)
    cases hvalue : field.2 with
    | null => rfl
    | text pieces =>
      rw [hvalue] at hs
      obtain ⟨t, ht, -⟩ := Option.map_eq_some_iff.mp hs
      exact Document.isSome_keepWithin_of_text? ht
    | bool | number | array | object => rw [hvalue] at hs; cases hs
  · obtain ⟨texts, htexts⟩ :=
      Fields.exists_of_mem_values h.endpoints (Document.mem_valuesUnder hfield hkey)
    cases hvalue : field.2 with
    | array items =>
      rw [hvalue] at htexts
      rw [Document.keepWithin, Option.isSome_map, Document.isSome_keepItems_iff]
      intro item hitem
      obtain ⟨s, -, hs⟩ := Document.exists_of_mapM htexts hitem
      exact Document.isSome_keepWithin_of_text? hs
    | null | bool | number | text | object => rw [hvalue] at htexts; cases htexts

theorem isSome_keepWithin_of_written {entries : List LooseEntry}
    {objects : List (List (List Piece × Document))} (h : List.Forall₂ WrittenBy entries objects)
    (depth : Nat) :
    ∀ fields ∈ objects, ((Document.object fields).keepWithin (depth + 2)).isSome = true := by
  induction h with
  | nil => exact List.forall_mem_nil _
  | cons hfirst _ ih => exact List.forall_mem_cons.mpr ⟨hfirst.isSome_keepWithin depth, ih⟩

end Written

end LooseEntry

/-! ### The list under a key -/

namespace Listing

variable {fields : List (List Piece × Document)} {key : String}

/-- A list is read under a key exactly where the page writes one value there, a list whose items all
read. -/
theorem unifiedUnder?_eq_some_iff (readable : ∀ field ∈ fields, (textOf? field.1).isSome = true)
    {entries : List UnifiedEntry} :
    unifiedUnder? key (.object fields) = some entries ↔
      ∃ value, (Document.object fields).valuesUnder key = [value] ∧
        value.list? unifiedEntry? = some entries := by
  constructor
  · intro h
    obtain ⟨known, hknown, h⟩ := Option.bind_eq_some_iff.mp h
    obtain ⟨value, hvalue, hentries⟩ := Option.bind_eq_some_iff.mp h
    obtain ⟨honce, hfound⟩ := Document.objectFields?_found hknown List.mem_cons_self
    refine ⟨value, ?_, hentries⟩
    rw [hvalue] at hfound
    obtain ⟨rest, hrest⟩ := List.head?_eq_some_iff.mp hfound.symm
    rw [hrest] at honce ⊢
    rw [List.length_eq_zero_iff.mp (Nat.le_zero.mp (Nat.le_of_succ_le_succ honce))]
  · rintro ⟨value, hvalue, hentries⟩
    have honce : ∀ name ∈ [key], ((Document.object fields).valuesUnder name).length ≤ 1 := by
      rintro name hname
      rw [List.mem_singleton.mp hname, hvalue]
      exact Nat.le_refl 1
    obtain ⟨known, hknown⟩ := Document.exists_objectFields? readable honce
    have hfound := (Document.objectFields?_found hknown List.mem_cons_self).2
    rw [hvalue] at hfound
    simp only [unifiedUnder?, hknown, hfound, List.head?_cons, Option.bind_eq_bind,
      Option.bind_some, hentries]

theorem unifiedUnder?_of_values (readable : ∀ field ∈ fields, (textOf? field.1).isSome = true)
    {value : Document} (h : (Document.object fields).valuesUnder key = [value]) :
    unifiedUnder? key (.object fields) = value.list? unifiedEntry? := by
  ext entries
  rw [unifiedUnder?_eq_some_iff readable, h]
  constructor
  · rintro ⟨other, hother, hentries⟩
    obtain rfl := List.singleton_inj.mp hother
    exact hentries
  · exact fun hentries => ⟨value, rfl, hentries⟩

theorem unifiedUnder?_eq_none (readable : ∀ field ∈ fields, (textOf? field.1).isSome = true)
    (h : ∀ field ∈ fields, textOf? field.1 ≠ some key) :
    unifiedUnder? key (.object fields) = none := by
  refine Option.eq_none_iff_forall_ne_some.mpr fun entries hentries => ?_
  obtain ⟨value, hvalue, -⟩ := (unifiedUnder?_eq_some_iff readable).mp hentries
  rw [Document.valuesUnder_eq_nil h] at hvalue
  cases hvalue

theorem readable_of_kept (h : (Document.object fields).keep?.isSome = true) :
    ∀ field ∈ fields, (textOf? field.1).isSome = true :=
  fun field hfield => (Document.isSome_keep?_object_iff.mp h field hfield).1

theorem unifiedEntries?_of_kept {doc : Document} (h : doc.keep?.isSome = true) :
    unifiedEntries? doc = (unifiedUnder? "data" doc <|> unifiedUnder? "models" doc) := by
  obtain ⟨kept, hkept⟩ := Option.isSome_iff_exists.mp h
  rw [unifiedEntries?, hkept]
  rfl

theorem unifiedEntries?_of_not_kept {doc : Document} (h : ¬doc.keep?.isSome = true) :
    unifiedEntries? doc = none := by
  rw [unifiedEntries?, Option.not_isSome_iff_eq_none.mp h]
  rfl

/-- A page that can be kept and writes a list under one of both keys alone. -/
theorem unifiedEntries?_alone (before after : List (List Piece × Document)) {pieces : List Piece}
    {value : Document}
    (kept : (Document.object (before ++ (pieces, value) :: after)).keep?.isSome = true)
    (hkey : textOf? pieces = some key) (hmem : key ∈ ["data", "models"])
    (others : ∀ field ∈ before ++ after,
      textOf? field.1 ≠ some "data" ∧ textOf? field.1 ≠ some "models") :
    unifiedEntries? (.object (before ++ (pieces, value) :: after)) =
      value.list? unifiedEntry? := by
  have readable := readable_of_kept kept
  have hfields {other : String} (hne : key ≠ other)
      (h : ∀ field ∈ before ++ after, textOf? field.1 ≠ some other) :
      ∀ field ∈ before ++ (pieces, value) :: after, textOf? field.1 ≠ some other := by
    obtain ⟨hbefore, hafter⟩ := List.forall_mem_append.mp h
    refine List.forall_mem_append.mpr ⟨hbefore, List.forall_mem_cons.mpr ⟨?_, hafter⟩⟩
    rw [hkey]
    exact fun heq => hne (Option.some.inj heq)
  rw [unifiedEntries?_of_kept kept]
  simp only [List.mem_cons, List.not_mem_nil, or_false] at hmem
  rcases hmem with rfl | rfl
  · have hvalue : (Document.object (before ++ (pieces, value) :: after)).valuesUnder "data" =
        [value] := Document.valuesUnder_around hkey fun field hfield => (others field hfield).1
    rw [unifiedUnder?_of_values readable hvalue, unifiedUnder?_eq_none readable
      (hfields (by decide) fun field hfield => (others field hfield).2)]
    cases value.list? unifiedEntry? <;> rfl
  · have hvalue : (Document.object (before ++ (pieces, value) :: after)).valuesUnder "models" =
        [value] := Document.valuesUnder_around hkey fun field hfield => (others field hfield).2
    rw [unifiedUnder?_of_values readable hvalue, unifiedUnder?_eq_none readable
      (hfields (by decide) fun field hfield => (others field hfield).1)]
    rfl

/-- What is read of a page stands under one of both keys, in a list whose items all read. -/
theorem exists_list_of_unifiedEntries? {doc : Document} {entries : List UnifiedEntry}
    (h : unifiedEntries? doc = some entries) :
    ∃ key value, (key = "data" ∨ key = "models") ∧ doc.valuesUnder key = [value] ∧
      value.list? unifiedEntry? = some entries := by
  have kept : doc.keep?.isSome = true := by
    by_contra hnot
    rw [unifiedEntries?_of_not_kept hnot] at h
    cases h
  rw [unifiedEntries?_of_kept kept] at h
  cases doc with
  | object fields =>
    have readable := readable_of_kept kept
    rw [Option.orElse_eq_orElse, Option.orElse_eq_or, Option.or_eq_some_iff] at h
    rcases h with hdata | ⟨-, hmodels⟩
    · obtain ⟨value, hread⟩ := (unifiedUnder?_eq_some_iff readable).mp hdata
      exact ⟨"data", value, .inl rfl, hread⟩
    · obtain ⟨value, hread⟩ := (unifiedUnder?_eq_some_iff readable).mp hmodels
      exact ⟨"models", value, .inr rfl, hread⟩
  | null | bool | number | text | array => cases h

/-! ### What an item of the unified page comes to -/

/-- The part of an item under a name. -/
def unifiedPart? (name : String) (item : Document) : Option Document :=
  item.part? ["id", "name", "type", "olla", "endpoints"] name

/-- What is left of the text under a name, unless it is missing, null or blank. -/
def unifiedText? (name : String) (item : Document) : Option String :=
  ((unifiedPart? name item).bind text?).bind nonBlank?

/-- The id of an item, or else its name. -/
def unifiedId? (item : Document) : Option String :=
  unifiedText? "id" item <|> unifiedText? "name" item

/-- The references of an item that have a state. -/
def unifiedStates (item : Document) : List Document :=
  listed ((unifiedPart? "olla" item).bind (Document.part? ["availability"] "availability"))

/-- The endpoints an item refers to with a state, as they are written. -/
def unifiedStated (item : Document) : List String :=
  (unifiedStates item).filterMap fun reference =>
    (reference.part? ["endpoint", "state"] "endpoint").bind text?

/-- The endpoints an item refers to, those with a state first. -/
def unifiedRefs (item : Document) : List String :=
  (unifiedStated item ++ (listed (unifiedPart? "endpoints" item)).filterMap text?).filterMap
    nonBlank?

theorem reference?_endpoint {doc : Document} {r : ModelRef} (h : reference? doc = some r) :
    r.endpoint = ((doc.part? ["endpoint", "state"] "endpoint").bind text?).getD "" := by
  simp only [reference?, Option.bind_eq_bind, Option.bind_eq_some_iff] at h
  obtain ⟨known, hknown, endpoint, hendpoint, state, -, hr⟩ := h
  cases hr
  exact Fields.read_text_eq (Document.fields?_found hknown (by simp)) hendpoint

theorem availability?_eq {doc : Document} {refs : List ModelRef}
    (h : availability? doc = some refs) :
    (listed (doc.part? ["availability"] "availability")).map reference? = refs.map some := by
  obtain ⟨known, hknown, hrefs⟩ := Option.bind_eq_some_iff.mp h
  exact Fields.read_list_eq (Document.fields?_found hknown List.mem_cons_self) hrefs

theorem nonBlank?_getD_empty (s : Option String) : nonBlank? (s.getD "") = s.bind nonBlank? := by
  cases s with
  | none => decide +kernel
  | some s => rfl

/-- The references with a state that are not blank. -/
theorem filterMap_stated {doc : Document} {refs : List ModelRef}
    (h : (listed (doc.part? ["availability"] "availability")).map reference? = refs.map some) :
    ((listed (doc.part? ["availability"] "availability")).filterMap fun reference =>
        (reference.part? ["endpoint", "state"] "endpoint").bind text?).filterMap nonBlank? =
      (refs.map ModelRef.endpoint).filterMap nonBlank? := by
  rw [List.filterMap_filterMap, List.filterMap_map]
  refine Document.filterMap_of_map h fun reference r hr => ?_
  rw [Function.comp_apply, reference?_endpoint hr, nonBlank?_getD_empty]

/-- What is read of an item, part by part. -/
theorem unifiedEntry?_parts {item : Document} {e : UnifiedEntry}
    (h : unifiedEntry? item = some e) :
    e.id = (unifiedPart? "id" item).bind text? ∧ e.name = (unifiedPart? "name" item).bind text? ∧
      e.type = (unifiedPart? "type" item).bind text? ∧
      (e.availability.map ModelRef.endpoint).filterMap nonBlank? =
        (unifiedStated item).filterMap nonBlank? ∧
      e.endpoints = (listed (unifiedPart? "endpoints" item)).filterMap text? := by
  simp only [ unifiedEntry?, Option.bind_eq_bind, Option.bind_eq_some_iff] at h
  obtain ⟨known, hknown, id, hid, name, hname, type, htype, olla, holla, endpoints, hendpoints,
    he⟩ := h
  cases he
  have hpart {name : String} (hmem : name ∈ ["id", "name", "type", "olla", "endpoints"]) :
      known.lookup name = unifiedPart? name item := Document.fields?_found hknown hmem
  refine ⟨Fields.read_optionalText_eq (hpart (by simp)) hid,
    Fields.read_optionalText_eq (hpart (by simp)) hname,
    Fields.read_optionalText_eq (hpart (by simp)) htype, ?_, ?_⟩
  · rw [unifiedStated, unifiedStates]
    rcases Fields.read_optional_cases (hpart (by simp)) holla with
      ⟨rfl, hnone | hnull⟩ | ⟨doc, refs, hdoc, hrefs, rfl⟩
    · rw [hnone]
      rfl
    · rw [hnull]
      rfl
    · rw [hdoc]
      exact (filterMap_stated (availability?_eq hrefs)).symm
  · have hmap := Fields.read_list_eq (hpart (by simp)) hendpoints
    rw [Document.filterMap_of_map hmap fun _ _ htext => htext, List.filterMap_some]

end Listing

/-! ### The models of a page -/

/-- The model is what an item of the unified page comes to. -/
structure Model.TellsOf (m : Model) (item : Document) : Prop where
  id : Listing.unifiedId? item = some m.id
  refs : m.refs.map ModelRef.endpoint = Listing.unifiedRefs item
  typeHint : m.typeHint = Listing.unifiedText? "type" item

namespace Listing

theorem map_endpoint_normal (refs : List ModelRef) :
    (refs.filterMap ModelRef.normal?).map ModelRef.endpoint =
      (refs.map ModelRef.endpoint).filterMap nonBlank? := by
  rw [List.map_filterMap, List.filterMap_map]
  refine List.filterMap_congr fun r _ => ?_
  rw [ModelRef.normal?, Option.map_map]
  exact Option.map_id'

theorem map_endpoint_ofTexts (texts : List String) :
    (ModelRef.ofTexts texts).map ModelRef.endpoint = texts.filterMap nonBlank? := by
  rw [ModelRef.ofTexts, List.map_map]
  exact List.map_id _

theorem unifiedId?_eq {item : Document} {e : UnifiedEntry} (h : unifiedEntry? item = some e) :
    unifiedId? item = (e.id.bind nonBlank? <|> e.name.bind nonBlank?) := by
  obtain ⟨hid, hname, -⟩ := unifiedEntry?_parts h
  rw [unifiedId?, unifiedText?, unifiedText?, hid, hname]

/-- An item with an id or a name comes to its model. -/
theorem tellsOf_of_ofUnified? {item : Document} {e : UnifiedEntry} {m : Model}
    (h : unifiedEntry? item = some e) (hm : Model.ofUnified? e = some m) : m.TellsOf item := by
  obtain ⟨-, -, htype, hstated, hendpoints⟩ := unifiedEntry?_parts h
  obtain ⟨id, hid, rfl⟩ := Option.map_eq_some_iff.mp hm
  refine ⟨(unifiedId?_eq h).trans hid, ?_, ?_⟩
  · rw [List.map_append, map_endpoint_normal, map_endpoint_ofTexts, hstated, hendpoints,
      unifiedRefs, List.filterMap_append]
  · rw [htype, unifiedText?]

/-- The items with an id or a name come to one model each, in their order. -/
theorem forall₂_tellsOf {items : List Document} {entries : List UnifiedEntry}
    (h : items.map unifiedEntry? = entries.map some) :
    List.Forall₂ (fun item m => Model.TellsOf m item)
      (items.filter fun item => (unifiedId? item).isSome)
      (entries.filterMap Model.ofUnified?) := by
  induction items generalizing entries with
  | nil =>
    obtain rfl := List.map_eq_nil_iff.mp h.symm
    exact .nil
  | cons item items ih =>
    obtain ⟨e, rest, rfl, he, hrest⟩ := List.map_eq_cons_iff.mp h.symm
    cases hm : Model.ofUnified? e with
    | none =>
      have hid := (unifiedId?_eq he.symm).trans (Option.map_eq_none_iff.mp hm)
      rw [List.filter_cons_of_neg (by simp [hid]), List.filterMap_cons_none hm]
      exact ih hrest.symm
    | some m =>
      have htells := tellsOf_of_ofUnified? he.symm hm
      rw [List.filter_cons_of_pos (by simp [htells.id]), List.filterMap_cons_some hm]
      exact .cons htells (ih hrest.symm)

theorem isBare_of_unifiedText? {name s : String} {item : Document}
    (h : unifiedText? name item = some s) : IsBare s := by
  obtain ⟨text, -, htext⟩ := Option.bind_eq_some_iff.mp h
  exact isBare_of_nonBlank? htext

end Listing

theorem Model.TellsOf.isBare {m : Model} {item : Document} (h : m.TellsOf item) :
    IsBare m.id ∧ ∀ r ∈ m.refs, IsBare r.endpoint := by
  constructor
  · have hid := h.id
    rw [Listing.unifiedId?, Option.orElse_eq_orElse, Option.orElse_eq_or,
      Option.or_eq_some_iff] at hid
    rcases hid with hid | ⟨-, hname⟩
    · exact Listing.isBare_of_unifiedText? hid
    · exact Listing.isBare_of_unifiedText? hname
  · intro r hr
    have hmem := List.mem_map_of_mem hr (f := ModelRef.endpoint)
    rw [h.refs, Listing.unifiedRefs] at hmem
    obtain ⟨text, -, htext⟩ := List.mem_filterMap.mp hmem
    exact isBare_of_nonBlank? htext

theorem Model.isBare_of_tellsOf {items : List Document} {models : List Model}
    (h : List.Forall₂ (fun item m => Model.TellsOf m item) items models) :
    ∀ m ∈ models, IsBare m.id ∧ ∀ r ∈ m.refs, IsBare r.endpoint := by
  induction h with
  | nil => exact List.forall_mem_nil _
  | cons hfirst _ ih => exact List.forall_mem_cons.mpr ⟨hfirst.isBare, ih⟩

/-! ### Reading a page -/

section Pages

variable {body : String} {doc : Document} {entries : List LooseEntry}

theorem readUnifiedPage_eq (hdoc : Document.parse? body = some doc) :
    readUnifiedPage body =
      match Listing.unifiedEntries? doc with
      | some entries => .ok (entries.filterMap Model.ofUnified?)
      | none => .error (.invalidResponse "expected a `data` or `models` list: not there") := by
  rw [readUnifiedPage, Listing.page, hdoc, Option.bind_some]
  cases Listing.unifiedEntries? doc <;> rfl

theorem list?_of_written {β : Type} {item : Document → Option β} {f : LooseEntry → β}
    {objects : List (List (List Piece × Document))}
    (h : List.Forall₂ LooseEntry.WrittenBy entries objects)
    (hitem : ∀ e fields, LooseEntry.WrittenBy e fields → item (.object fields) = some (f e)) :
    (Document.array (objects.map Document.object)).list? item = some (entries.map f) := by
  rw [list?, mapM_eq_some_iff]
  induction h with
  | nil => rfl
  | @cons e fields _ _ hfirst _ ih =>
    rw [List.map_cons, List.map_cons, List.map_cons, List.map_cons, hitem e fields hfirst, ih]

theorem readStatusPage_of_listedBy (h : LooseEntry.ListedBy entries "recent_models" body) :
    readStatusPage body = .ok (entries.filterMap LooseEntry.model?) := by
  obtain ⟨pieces, objects, hbody, hkey, hwritten⟩ := h
  have hitems := list?_of_written hwritten fun _ _ hentry => hentry.statusEntry?
  have hentries : Listing.statusEntries?
      (.object [(pieces, .array (objects.map Document.object))]) =
        some (entries.map LooseEntry.status) := by
    rw [Listing.statusEntries?, Document.fields?, Document.objectFields?_single hkey]
    · exact hitems
    · rintro items ⟨⟩
  have hmodels : (entries.map LooseEntry.status).filterMap Model.ofStatus? =
      entries.filterMap LooseEntry.model? := by
    rw [List.filterMap_map]
    exact List.filterMap_congr fun e _ => LooseEntry.ofStatus?_status e
  rw [readStatusPage, Listing.page, hbody, Option.bind_some, hentries]
  exact congrArg Except.ok hmodels

theorem readUnifiedPage_of_listedBy {key : String} (hmem : key ∈ ["data", "models"])
    (h : LooseEntry.ListedBy entries key body) :
    readUnifiedPage body = .ok (entries.filterMap LooseEntry.model?) := by
  obtain ⟨pieces, objects, hbody, hkey, hwritten⟩ := h
  have hitems := list?_of_written hwritten fun _ _ hentry => hentry.unifiedEntry?
  have hkept : (Document.object
      [(pieces, .array (objects.map Document.object))]).keep?.isSome = true := by
    -- The page, its list and the parts of an entry take four of the levels there are.
    have hdepth : Document.maxDepth - 1 = 123 + 2 + 1 := rfl
    rw [Document.isSome_keep?_object_iff, List.forall_mem_singleton, hkey, hdepth,
      Document.keepWithin, Option.isSome_map, Document.isSome_keepItems_iff]
    refine ⟨rfl, List.forall_mem_map.mpr ?_⟩
    exact LooseEntry.isSome_keepWithin_of_written hwritten 123
  have hmodels : (entries.map LooseEntry.unified).filterMap Model.ofUnified? =
      entries.filterMap LooseEntry.model? := by
    rw [List.filterMap_map]
    exact List.filterMap_congr fun e _ => LooseEntry.ofUnified?_unified e
  have hentries := Listing.unifiedEntries?_alone [] [] hkept hkey hmem (List.forall_mem_nil _)
  rw [List.nil_append, hitems] at hentries
  rw [readUnifiedPage_eq hbody, hentries]
  exact congrArg Except.ok hmodels

/-- Under either key a list reads the same, whatever other fields stand around it. -/
theorem readUnifiedPage_key {before after : List (List Piece × Document)} {value : Document}
    {dataKey modelsKey : List Piece} {other : String}
    (others : ∀ field ∈ before ++ after,
      textOf? field.1 ≠ some "data" ∧ textOf? field.1 ≠ some "models")
    (hdata : textOf? dataKey = some "data") (hmodels : textOf? modelsKey = some "models")
    (hbody : Document.parse? body = some (.object (before ++ (dataKey, value) :: after)))
    (hother : Document.parse? other = some (.object (before ++ (modelsKey, value) :: after))) :
    readUnifiedPage body = readUnifiedPage other := by
  have hkept : (Document.object (before ++ (dataKey, value) :: after)).keep?.isSome = true ↔
      (Document.object (before ++ (modelsKey, value) :: after)).keep?.isSome = true := by
    simp only [Document.isSome_keep?_object_iff, List.forall_mem_append, List.forall_mem_cons,
      hdata, hmodels, Option.isSome_some]
  rw [readUnifiedPage_eq hbody, readUnifiedPage_eq hother]
  by_cases h : (Document.object (before ++ (dataKey, value) :: after)).keep?.isSome = true
  · rw [Listing.unifiedEntries?_alone before after h hdata (by simp) others,
      Listing.unifiedEntries?_alone before after (hkept.mp h) hmodels (by simp) others]
  · rw [Listing.unifiedEntries?_of_not_kept h,
      Listing.unifiedEntries?_of_not_kept fun hother => h (hkept.mpr hother)]

/-- Of two lists that are both there the first that reads is used. -/
theorem readUnifiedPage_both {data models : Document} (hdoc : Document.parse? body = some doc)
    (kept : doc.keep?.isSome = true) (hdata : doc.valuesUnder "data" = [data])
    (hmodels : doc.valuesUnder "models" = [models]) :
    readUnifiedPage body =
      match data.list? Listing.unifiedEntry?, models.list? Listing.unifiedEntry? with
      | some entries, _ => .ok (entries.filterMap Model.ofUnified?)
      | none, some entries => .ok (entries.filterMap Model.ofUnified?)
      | none, none =>
        .error (.invalidResponse "expected a `data` or `models` list: not there") := by
  cases doc with
  | object fields =>
    have readable := Listing.readable_of_kept kept
    rw [readUnifiedPage_eq hdoc, Listing.unifiedEntries?_of_kept kept,
      Listing.unifiedUnder?_of_values readable hdata,
      Listing.unifiedUnder?_of_values readable hmodels]
    cases data.list? Listing.unifiedEntry? with
    | some entries => rfl
    | none => cases models.list? Listing.unifiedEntry? <;> rfl
  | null | bool | number | text | array => cases hdata

/-- The models of a page that is read are those of its items. -/
theorem exists_items_of_readUnifiedPage {models : List Model}
    (h : readUnifiedPage body = .ok models) :
    ∃ doc items, Document.parse? body = some doc ∧
      (doc.valuesUnder "data" = [.array items] ∨ doc.valuesUnder "models" = [.array items]) ∧
      List.Forall₂ (fun item m => Model.TellsOf m item)
        (items.filter fun item => (Listing.unifiedId? item).isSome) models := by
  rw [readUnifiedPage, Listing.page] at h
  split at h
  · next entries hentries =>
    cases h
    obtain ⟨doc, hdoc, hentries⟩ := Option.bind_eq_some_iff.mp hentries
    obtain ⟨key, value, hkey, hvalue, hlist⟩ := Listing.exists_list_of_unifiedEntries? hentries
    cases value with
    | array items =>
      have htells := Listing.forall₂_tellsOf (mapM_eq_some_iff.mp hlist)
      rcases hkey with rfl | rfl
      · exact ⟨doc, items, hdoc, .inl hvalue, htells⟩
      · exact ⟨doc, items, hdoc, .inr hvalue, htells⟩
    | null | bool | number | text | object => cases hlist
  · cases h

end Pages

/-- **Both sources and both keys list the same models.** Entries that either source may list come to
the same models from the status page and from the unified page, under either key. Any value at all
is read alike under either key. Where both keys are there, the page is read from the list under
`data` if its items all read and from the list under `models` otherwise, provided that the page can
be kept; one that cannot be kept is refused. The models of a page are those of its items with an id
or a name, one each and in their order, and no text in them has blanks around it. -/
theorem modelPages_agree :
    (∀ (entries : List LooseEntry) (body : String),
      (LooseEntry.ListedBy entries "recent_models" body →
        readStatusPage body = .ok (entries.filterMap LooseEntry.model?)) ∧
      ∀ key ∈ ["data", "models"], LooseEntry.ListedBy entries key body →
        readUnifiedPage body = .ok (entries.filterMap LooseEntry.model?)) ∧
    (∀ (before after : List (List Piece × Document)) (value : Document)
      (dataKey modelsKey : List Piece) (body other : String),
      (∀ field ∈ before ++ after,
        textOf? field.1 ≠ some "data" ∧ textOf? field.1 ≠ some "models") →
      textOf? dataKey = some "data" → textOf? modelsKey = some "models" →
      Document.parse? body = some (.object (before ++ (dataKey, value) :: after)) →
      Document.parse? other = some (.object (before ++ (modelsKey, value) :: after)) →
      readUnifiedPage body = readUnifiedPage other) ∧
    (∀ (body : String) (doc data models : Document), Document.parse? body = some doc →
      doc.valuesUnder "data" = [data] → doc.valuesUnder "models" = [models] →
      readUnifiedPage body =
        if doc.keep?.isSome then
          match data.list? Listing.unifiedEntry?, models.list? Listing.unifiedEntry? with
          | some entries, _ => .ok (entries.filterMap Model.ofUnified?)
          | none, some entries => .ok (entries.filterMap Model.ofUnified?)
          | none, none =>
            .error (.invalidResponse "expected a `data` or `models` list: not there")
        else .error (.invalidResponse "expected a `data` or `models` list: not there")) ∧
    ∀ (body : String) (models : List Model), readUnifiedPage body = .ok models →
      (∃ doc items, Document.parse? body = some doc ∧
        (doc.valuesUnder "data" = [.array items] ∨ doc.valuesUnder "models" = [.array items]) ∧
        List.Forall₂ (fun item m => Model.TellsOf m item)
          (items.filter fun item => (Listing.unifiedId? item).isSome) models) ∧
      ∀ m ∈ models, IsBare m.id ∧ ∀ r ∈ m.refs, IsBare r.endpoint := by
  refine ⟨fun entries body => ⟨readStatusPage_of_listedBy, fun key hmem =>
    readUnifiedPage_of_listedBy hmem⟩, fun before after value dataKey modelsKey body other =>
    readUnifiedPage_key, ?_, ?_⟩
  · intro body doc data models hdoc hdata hmodels
    split
    · next kept => exact readUnifiedPage_both hdoc kept hdata hmodels
    · next kept => rw [readUnifiedPage_eq hdoc, Listing.unifiedEntries?_of_not_kept kept]
  · intro body models h
    obtain ⟨doc, items, hdoc, hvalues, htells⟩ := exists_items_of_readUnifiedPage h
    exact ⟨⟨doc, items, hdoc, hvalues, htells⟩, Model.isBare_of_tellsOf htells⟩

/-- The pieces of a text without escapes. -/
def plainPieces (s : String) : List Piece := s.toList.map .char

/-- An entry with a null type and a padded name. -/
def soleEntry : List (List Piece × Document) :=
  [(plainPieces "type", .null), (plainPieces "name", .text (plainPieces " a "))]

/-- The page with this entry under a key. -/
def solePage (key : String) : String :=
  "\x7b\"" ++ key ++ "\":[\x7b\"type\":null,\"name\":\" a \"\x7d]\x7d"

theorem modelPages_agree_sole :
    readStatusPage (solePage "recent_models") = .ok [⟨"a", [], none⟩] ∧
      readUnifiedPage (solePage "models") = .ok [⟨"a", [], none⟩] ∧
      readUnifiedPage (solePage "data") = .ok [⟨"a", [], none⟩] := by
  let loose : LooseEntry := { name := some " a ", type := some none }
  have hwritten : loose.WrittenBy soleEntry := ⟨by decide, rfl, rfl, rfl⟩
  have hmodels : [loose].filterMap LooseEntry.model? = [⟨"a", [], none⟩] := by decide +kernel
  have hlisted {key : String} (hkey : textOf? (plainPieces key) = some key)
      (hpage : Document.parse? (solePage key) =
        some (.object [(plainPieces key, .array [.object soleEntry])])) :
      LooseEntry.ListedBy [loose] key (solePage key) :=
    ⟨plainPieces key, [soleEntry], hpage, hkey, .cons hwritten .nil⟩
  rw [← hmodels]
  exact ⟨(modelPages_agree.1 [loose] _).1 (hlisted (by cbv) (by cbv)),
    (modelPages_agree.1 [loose] _).2 "models" (by simp) (hlisted (by cbv) (by cbv)),
    (modelPages_agree.1 [loose] _).2 "data" (by simp) (hlisted (by cbv) (by cbv))⟩

/-- A list of one item with an id. -/
def soleList : Document := .array [.object [(plainPieces "id", .text (plainPieces "a"))]]

/-- A page with that list under one key and an empty one under the other. The number beside them is
too large to be kept. -/
def hugePage : String :=
  "\x7b\"data\":[\x7b\"id\":\"a\"\x7d],\"models\":[],\"size\":1e999\x7d"

theorem readUnifiedPage_huge :
    ∃ doc data models, Document.parse? hugePage = some doc ∧ doc.valuesUnder "data" = [data] ∧
      doc.valuesUnder "models" = [models] ∧
      data.list? Listing.unifiedEntry? = some [{ id := some "a" }] ∧
      readUnifiedPage hugePage =
        .error (.invalidResponse "expected a `data` or `models` list: not there") := by
  have hpage : Document.parse? hugePage = some (.object [(plainPieces "data", soleList),
      (plainPieces "models", .array []),
      (plainPieces "size", .number ⟨false, ['1'], none, some (false, ['9', '9', '9'])⟩)]) := by
    cbv
  exact ⟨_, soleList, .array [], hpage, by cbv, by cbv, by decide +kernel, by decide +kernel⟩

end GatewayProbe

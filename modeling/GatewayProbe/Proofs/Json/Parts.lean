/-
What a document writes under a name.

The reader of a record finds under each of its names what the document writes there, provided that
no name of it is written twice. The other fields of the document do not count, nor does the order in
which fields are written.

* `Document.valuesUnder`, `Document.part?` — what stands under a name, or in its place;
* `Document.objectFields?_found`, `Document.fields?_found` — this is what is found;
* `Document.exists_objectFields?` — fields are found where keys can be read and none is repeated;
* `Fields.read_of_values` and the lemmas after it — what is read of a part that was found;
* `Document.isSome_keepItems_iff`, `Document.isSome_keepFields_iff` — a document is fit to be kept
  exactly where its parts are;
* `Document.get?_keepWithin` — a kept document holds under a name what it writes there last.
-/
import GatewayProbe.Proofs.Json.Records

namespace GatewayProbe

namespace Document

/-- What an object writes under a name. -/
def valuesUnder (name : String) : Document → List Document
  | .object fields => (fields.filter fun field => textOf? field.1 = some name).map Prod.snd
  | _ => []

/-- The part of a record under a name, or in the place of this name. -/
def part? (names : List String) (name : String) : Document → Option Document
  | .array items => (names.zip items).lookup name
  | doc => (doc.valuesUnder name).head?

/-- The items of a list, if there is one. -/
def listed : Option Document → List Document
  | some (.array items) => items
  | _ => []

/-! ### The fields of an object -/

theorem filterMap_of_map {α β γ : Type} {f : α → Option β} {g : β → Option γ} {k : α → Option γ}
    {xs : List α} {ys : List β} (h : xs.map f = ys.map some)
    (hk : ∀ x y, f x = some y → k x = g y) : xs.filterMap k = ys.filterMap g := by
  induction xs generalizing ys with
  | nil =>
    obtain rfl := List.map_eq_nil_iff.mp h.symm
    rfl
  | cons x xs ih =>
    obtain ⟨y, rest, rfl, hy, hrest⟩ := List.map_eq_cons_iff.mp h.symm
    rw [List.filterMap_cons, List.filterMap_cons, hk x y hy.symm, ih hrest.symm]

theorem exists_of_mapM {α β : Type} {f : α → Option β} {xs : List α} {ys : List β}
    (h : xs.mapM f = some ys) {x : α} (hx : x ∈ xs) : ∃ y ∈ ys, f x = some y := by
  have hmem := List.mem_map_of_mem hx (f := f)
  rw [mapM_eq_some_iff.mp h] at hmem
  obtain ⟨y, hy, heq⟩ := List.mem_map.mp hmem
  exact ⟨y, hy, heq.symm⟩

variable {fields : List (List Piece × Document)} {named known : Fields} {names : List String}
  {name : String} {doc : Document}

/-- The fields of an object under the names that their keys write. -/
theorem valuesUnder_of_named
    (h : fields.mapM (fun entry => (textOf? entry.1).map fun key => (key, entry.2)) = some named)
    (name : String) : (Document.object fields).valuesUnder name =
      (named.filter fun entry => entry.1 = name).map Prod.snd := by
  rw [mapM_eq_some_iff] at h
  rw [valuesUnder]
  induction fields generalizing named with
  | nil =>
    obtain rfl := List.map_eq_nil_iff.mp h.symm
    rfl
  | cons field fields ih =>
    cases named with
    | nil => cases h
    | cons entry named =>
      obtain ⟨hfirst, hrest⟩ := List.cons.inj h
      obtain ⟨key, hkey, rfl⟩ := Option.map_eq_some_iff.mp hfirst
      have hsame : decide (textOf? field.1 = some name) = decide (key = name) :=
        decide_eq_decide.mpr (by rw [hkey, Option.some.injEq])
      rw [List.filter_cons, List.filter_cons, hsame]
      split
      · rw [List.map_cons, List.map_cons, ih hrest]
      · exact ih hrest

theorem mem_valuesUnder {field : List Piece × Document} (h : field ∈ fields)
    (hkey : textOf? field.1 = some name) :
    field.2 ∈ (Document.object fields).valuesUnder name :=
  List.mem_map_of_mem (List.mem_filter.mpr ⟨h, decide_eq_true hkey⟩)

theorem valuesUnder_eq_nil (h : ∀ field ∈ fields, textOf? field.1 ≠ some name) :
    (Document.object fields).valuesUnder name = [] := by
  rw [valuesUnder, List.filter_eq_nil_iff.mpr fun field hfield => by simp [h field hfield],
    List.map_nil]

/-- An object that writes one value under a name and nothing else there. -/
theorem valuesUnder_around {before after : List (List Piece × Document)} {key : List Piece}
    {value : Document} (hkey : textOf? key = some name)
    (h : ∀ field ∈ before ++ after, textOf? field.1 ≠ some name) :
    (Document.object (before ++ (key, value) :: after)).valuesUnder name = [value] := by
  obtain ⟨hbefore, hafter⟩ := List.forall_mem_append.mp h
  rw [valuesUnder, List.filter_append, List.filter_cons_of_pos (by simp [hkey]),
    List.filter_eq_nil_iff.mpr fun field hfield => by simp [hbefore field hfield],
    List.filter_eq_nil_iff.mpr fun field hfield => by simp [hafter field hfield],
    List.nil_append, List.map_singleton]

theorem head?_filter_key {α : Type} (entries : List (String × α)) (name : String) :
    ((entries.filter fun entry => entry.1 = name).map Prod.snd).head? = entries.lookup name := by
  induction entries with
  | nil => rfl
  | cons entry entries ih =>
    obtain ⟨key, value⟩ := entry
    by_cases h : key = name
    · subst h
      rw [List.filter_cons_of_pos (by simp), List.lookup_cons_self, List.map_cons, List.head?_cons]
    · rw [List.filter_cons_of_neg (by simpa using h), ih, List.lookup_cons,
        beq_false_of_ne (Ne.symm h)]

theorem filter_key_filter {α : Type} {entries : List (String × α)} (h : name ∈ names) :
    ((entries.filter fun entry => names.contains entry.1).filter fun entry => entry.1 = name) =
      entries.filter fun entry => entry.1 = name := by
  rw [List.filter_filter]
  refine List.filter_congr fun entry _ => ?_
  rw [Bool.and_eq_left_iff_imp]
  intro hkey
  rw [of_decide_eq_true hkey]
  exact List.contains_iff_mem.mpr h

/-- Under a name that is asked for an object writes at most once, and that is what is found. -/
theorem objectFields?_found (h : doc.objectFields? names = some known) (hname : name ∈ names) :
    (doc.valuesUnder name).length ≤ 1 ∧ known.lookup name = (doc.valuesUnder name).head? := by
  cases doc with
  | object fields =>
    obtain ⟨named, hnamed, h⟩ := Option.bind_eq_some_iff.mp h
    dsimp only at h
    split at h
    · next honce =>
      cases h
      have honce := of_decide_eq_true (List.all_eq_true.mp honce name hname)
      rw [filter_key_filter hname] at honce
      rw [valuesUnder_of_named hnamed, head?_filter_key,
        lookup_filter_key (List.contains_iff_mem.mpr hname), List.length_map]
      exact ⟨honce, rfl⟩
    · cases h
  | null | bool | number | text | array => cases h

/-- What is found of a record is its parts. -/
theorem fields?_found (h : doc.fields? names = some known) (hname : name ∈ names) :
    known.lookup name = doc.part? names name := by
  cases doc with
  | array items =>
    rw [fields?] at h
    split at h
    · cases h
      rfl
    · cases h
  | object fields =>
    have h : (Document.object fields).objectFields? names = some known := h
    exact (objectFields?_found h hname).2
  | null | bool | number | text => cases h

/-- Fields are found where all keys can be read and no name is written twice. -/
theorem exists_objectFields? (readable : ∀ field ∈ fields, (textOf? field.1).isSome = true)
    (once : ∀ name ∈ names, ((Document.object fields).valuesUnder name).length ≤ 1) :
    ∃ known, (Document.object fields).objectFields? names = some known := by
  have hnamed : ∃ named : Fields,
      fields.mapM (fun entry => (textOf? entry.1).map fun key => (key, entry.2)) = some named := by
    clear once
    induction fields with
    | nil => exact ⟨[], rfl⟩
    | cons field fields ih =>
      obtain ⟨hfirst, hrest⟩ := List.forall_mem_cons.mp readable
      obtain ⟨key, hkey⟩ := Option.isSome_iff_exists.mp hfirst
      obtain ⟨named, hnamed⟩ := ih hrest
      exact ⟨(key, field.2) :: named, by rw [List.mapM_cons, hkey, hnamed]; rfl⟩
  obtain ⟨named, hnamed⟩ := hnamed
  refine ⟨named.filter fun entry => names.contains entry.1, ?_⟩
  rw [objectFields?, hnamed]
  refine if_pos (List.all_eq_true.mpr fun name hname => decide_eq_true ?_)
  rw [filter_key_filter hname, ← List.length_map (f := Prod.snd), ← valuesUnder_of_named hnamed]
  exact once name hname

/-- The one field of an object is found. -/
theorem objectFields?_single {key : List Piece} {value : Document}
    (hkey : textOf? key = some name) :
    (Document.object [(key, value)]).objectFields? [name] = some [(name, value)] := by
  simp [objectFields?, hkey]

end Document

/-! ### One part -/

namespace Fields

open Document

variable {known : Fields} {name : String} {part : Option Document}

/-- A field is read as what stands under its name reads. -/
theorem read_of_values {α : Type} {default : α} {content : Document → Option α}
    {values : List Document} {written : Option α} (hpart : known.lookup name = values.head?)
    (h : values.map content = written.toList.map some) :
    known.read name default content = some (written.getD default) := by
  rw [Fields.read, hpart]
  cases written with
  | none =>
    obtain rfl := List.map_eq_nil_iff.mp h
    rfl
  | some x =>
    cases values with
    | nil => cases h
    | cons value values => exact (List.cons.inj h).1

theorem read_of_nil {α : Type} {default : α} {content : Document → Option α}
    {values : List Document} (hpart : known.lookup name = values.head?) (h : values = []) :
    known.read name default content = some default := by
  rw [Fields.read, hpart, h]
  rfl

theorem exists_of_mem_values {α : Type} {content : Document → Option α} {values : List Document}
    {written : Option α} (h : values.map content = written.toList.map some) {value : Document}
    (hvalue : value ∈ values) : ∃ x, content value = some x := by
  have hmem := List.mem_map_of_mem hvalue (f := content)
  rw [h] at hmem
  obtain ⟨x, -, hx⟩ := List.mem_map.mp hmem
  exact ⟨x, hx.symm⟩

theorem length_values_le {α : Type} {content : Document → Option α} {values : List Document}
    {written : Option α} (h : values.map content = written.toList.map some) :
    values.length ≤ 1 := by
  rw [← List.length_map (f := content), h, List.length_map]
  cases written <;> simp

theorem read_text_eq {x : String} (hpart : known.lookup name = part)
    (h : known.read name "" text? = some x) : x = (part.bind text?).getD "" := by
  rw [Fields.read, hpart] at h
  cases part with
  | none => exact (Option.some.inj h).symm
  | some doc =>
    have h : doc.text? = some x := h
    rw [Option.bind_some, h]
    rfl

theorem read_optional_cases {α : Type} {content : Document → Option α} {x : Option α}
    (hpart : known.lookup name = part)
    (h : known.read name none (optional? content) = some x) :
    (x = none ∧ (part = none ∨ part = some .null)) ∨
      ∃ doc y, part = some doc ∧ content doc = some y ∧ x = some y := by
  rw [Fields.read, hpart] at h
  cases part with
  | none => exact .inl ⟨(Option.some.inj h).symm, .inl rfl⟩
  | some doc =>
    cases doc with
    | null => exact .inl ⟨(Option.some.inj h).symm, .inr rfl⟩
    | bool | number | text | array | object =>
      obtain ⟨y, hy, rfl⟩ := Option.map_eq_some_iff.mp h
      exact .inr ⟨_, y, rfl, hy, rfl⟩

theorem read_optionalText_eq {x : Option String} (hpart : known.lookup name = part)
    (h : known.read name none (optional? text?) = some x) : x = part.bind text? := by
  rcases read_optional_cases hpart h with ⟨rfl, rfl | rfl⟩ | ⟨doc, y, rfl, hy, rfl⟩
  · rfl
  · rfl
  · exact hy.symm

theorem read_list_eq {α : Type} {item : Document → Option α} {xs : List α}
    (hpart : known.lookup name = part) (h : known.read name [] (list? item) = some xs) :
    (listed part).map item = xs.map some := by
  rw [Fields.read, hpart] at h
  cases part with
  | none =>
    cases h
    rfl
  | some doc =>
    cases doc with
    | array items => exact mapM_eq_some_iff.mp h
    | null | bool | number | text | object => cases h

end Fields

/-! ### Documents that are fit to be kept -/

namespace Document

theorem isSome_keepWithin_of_text? {doc : Document} {s : String} {depth : Nat}
    (h : doc.text? = some s) : (doc.keepWithin depth).isSome = true := by
  cases doc with
  | text pieces =>
    have h : textOf? pieces = some s := h
    rw [keepWithin, h]
    rfl
  | null | bool | number | array | object => cases h

theorem isSome_keepItems_iff {depth : Nat} {items : List Document} :
    (keepItems depth items).isSome = true ↔
      ∀ item ∈ items, (item.keepWithin depth).isSome = true := by
  induction items with
  | nil => simp [keepItems]
  | cons item items ih =>
    rw [List.forall_mem_cons, ← ih, keepItems]
    cases item.keepWithin depth <;> cases keepItems depth items <;> simp

theorem isSome_keepFields_iff {depth : Nat} {fields : List (List Piece × Document)} :
    (keepFields depth fields).isSome = true ↔ ∀ field ∈ fields,
      (textOf? field.1).isSome = true ∧ (field.2.keepWithin depth).isSome = true := by
  induction fields with
  | nil => simp [keepFields]
  | cons field fields ih =>
    obtain ⟨key, value⟩ := field
    rw [List.forall_mem_cons, ← ih, keepFields]
    cases textOf? key <;> cases value.keepWithin depth <;> cases keepFields depth fields <;> simp

theorem isSome_keep?_object_iff {fields : List (List Piece × Document)} :
    (Document.object fields).keep?.isSome = true ↔ ∀ field ∈ fields,
      (textOf? field.1).isSome = true ∧ (field.2.keepWithin (maxDepth - 1)).isSome = true := by
  rw [← isSome_keepFields_iff, keep?, maxDepth, keepWithin, Option.isSome_map]

/-! ### What a kept document holds -/

theorem length_keepItems {depth : Nat} {items : List Document} {values : List Json}
    (h : keepItems depth items = some values) : values.length = items.length := by
  induction items generalizing values with
  | nil =>
    cases h
    rfl
  | cons item items ih =>
    obtain ⟨value, -, h⟩ := Option.bind_eq_some_iff.mp h
    obtain ⟨rest, hrest, h⟩ := Option.bind_eq_some_iff.mp h
    cases h
    rw [List.length_cons, ih hrest, List.length_cons]

/-- The values under a name are kept one by one. -/
theorem map_keepWithin_valuesUnder {depth : Nat} {fields : List (List Piece × Document)}
    {values : List (String × Json)} (h : keepFields depth fields = some values) (name : String) :
    ((Document.object fields).valuesUnder name).map (keepWithin depth) =
      ((values.filter fun field => field.1 = name).map Prod.snd).map some := by
  rw [valuesUnder]
  induction fields generalizing values with
  | nil =>
    cases h
    rfl
  | cons field fields ih =>
    obtain ⟨key, doc⟩ := field
    obtain ⟨text, htext, h⟩ := Option.bind_eq_some_iff.mp h
    obtain ⟨value, hvalue, h⟩ := Option.bind_eq_some_iff.mp h
    obtain ⟨rest, hrest, h⟩ := Option.bind_eq_some_iff.mp h
    cases h
    by_cases hname : text = name
    · rw [List.filter_cons_of_pos (by simp [htext, hname]),
        List.filter_cons_of_pos (by simpa using hname), List.map_cons, List.map_cons, hvalue,
        List.map_cons, List.map_cons, ih hrest]
    · rw [List.filter_cons_of_neg (by simp [htext, hname]),
        List.filter_cons_of_neg (by simpa using hname), ih hrest]

/-- A kept document holds under a name what it writes there last. -/
theorem get?_keepWithin {depth : Nat} {doc : Document} {value : Json}
    (h : doc.keepWithin (depth + 1) = some value) (name : String) :
    value.get? name = (doc.valuesUnder name).getLast?.bind (keepWithin depth) := by
  cases doc with
  | object fields =>
    rw [keepWithin] at h
    obtain ⟨values, hvalues, rfl⟩ := Option.map_eq_some_iff.mp h
    have hlast := congrArg List.getLast? (map_keepWithin_valuesUnder hvalues name)
    rw [List.getLast?_map, List.getLast?_map] at hlast
    rw [Json.get?_ofFields_eq_getLast?]
    cases hdoc : ((Document.object fields).valuesUnder name).getLast? with
    | none =>
      rw [hdoc, Option.map_none, eq_comm, Option.map_eq_none_iff] at hlast
      rw [hlast, Option.bind_none]
    | some last =>
      rw [hdoc, Option.map_some, eq_comm, Option.map_eq_some_iff] at hlast
      obtain ⟨kept, hkept, hsome⟩ := hlast
      rw [hkept, Option.bind_some, ← hsome]
  | null | bool =>
    rw [keepWithin] at h
    cases h
    rfl
  | number | text | array =>
    rw [keepWithin, Option.map_eq_some_iff] at h
    obtain ⟨content, -, rfl⟩ := h
    rfl

end Document

end GatewayProbe

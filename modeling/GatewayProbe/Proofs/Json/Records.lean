/-
Records that were printed are read back.

A record is read field by field and a printed one has each of its fields once, so the reader of a
field gets what tells the value of that field. What it makes of it is one lemma for each reader:

* `Document.Tells.text?`, `natural?`, `optional?`, `list?` — the readers for the content of fields;
* `Document.Tells.exists_fields` — the fields of a record are those of the object;
* `Fields.Tell.read` — and one of them is read as its value is;
* `mapM_eq_some_iff`, `Fields.exists_of_mem_read` — what lists can be read as;
* `Fields.lt_of_read` — what counts can be read as.
-/
import Mathlib.Data.List.Nodup
import GatewayProbe.Json.Record
import GatewayProbe.Proofs.Json.Pretty
import GatewayProbe.View.Documents

namespace GatewayProbe

namespace Document.Tells

variable {doc : Document}

/-! ### The content of fields -/

theorem text? {s : String} (h : doc.Tells (.text s)) : doc.text? = some s := by
  cases h with
  | text content => exact content

theorem natural? {n bound : Nat} (h : doc.Tells (.ofNat n)) (hn : n < bound) :
    doc.natural? bound = some n := by
  cases h with
  | whole reads => exact reads n bound rfl hn

theorem optional? {s : Option String} (h : doc.Tells (.ofText? s)) :
    doc.optional? Document.text? = some s := by
  cases s with
  | none =>
    cases h with
    | null => rfl
  | some s =>
    have htext := h.text?
    cases h with
    | text content => exact congrArg (Option.map some) htext

/-- A list is read item by item. -/
theorem list? {α β : Type} {write : α → Json} {item : Document → Option β} {f : α → β}
    {xs : List α} (h : doc.Tells (.ofList write xs))
    (hitem : ∀ x ∈ xs, ∀ part : Document, part.Tells (write x) → item part = some (f x)) :
    doc.list? item = some (xs.map f) := by
  cases h with
  | @array docs _ parts =>
    rw [Document.list?]
    induction xs generalizing docs with
    | nil =>
      cases parts
      rfl
    | cons x xs ih =>
      cases parts with
      | cons first rest =>
        obtain ⟨hx, hxs⟩ := List.forall_mem_cons.mp hitem
        rw [List.mapM_cons, hx _ first, ih hxs rest]
        rfl

end Document.Tells

/-! ### Fields of records -/

/-- The fields that a reader found tell those of an object, as far as they were asked for. -/
def Fields.Tell (known : Fields) (names : List String) (object : Json) : Prop :=
  ∀ name ∈ names, ∀ value, object.get? name = some value →
    ∃ part, known.lookup name = some part ∧ part.Tells value

theorem lookup_filter_key {α : Type} {entries : List (String × α)} {keep : String → Bool}
    {name : String} (h : keep name = true) :
    (entries.filter fun entry => keep entry.1).lookup name = entries.lookup name := by
  induction entries with
  | nil => rfl
  | cons entry entries ih =>
    obtain ⟨key, value⟩ := entry
    by_cases hkey : name = key
    · subst hkey
      have hkept : keep (name, value).1 = true := h
      rw [List.filter_cons, if_pos hkept, List.lookup_cons_self, List.lookup_cons_self]
    · have hne : (name == key) = false := beq_false_of_ne hkey
      rw [List.filter_cons]
      split
      · rw [List.lookup_cons, List.lookup_cons, hne, ih]
      · rw [ih, List.lookup_cons, hne]

theorem length_filter_key_le {α : Type} {entries : List (String × α)}
    (distinct : (entries.map Prod.fst).Nodup) (name : String) :
    (entries.filter fun entry => entry.1 = name).length ≤ 1 := by
  have hcount := List.nodup_iff_count_le_one.mp distinct name
  rw [List.count_eq_countP, List.countP_map, List.countP_eq_length_filter] at hcount
  exact hcount

/-- The entries under their names tell the fields one by one. -/
theorem exists_named {docs : List (List Piece × Document)} {fields : List (String × Json)}
    (keys : docs.map (fun d => Document.textOf? d.1) = fields.map fun f => some f.1)
    (parts : List.Forall₂ Document.Tells (docs.map Prod.snd) (fields.map Prod.snd)) :
    ∃ named : Fields,
      docs.mapM (fun entry => (Document.textOf? entry.1).map fun key => (key, entry.2)) =
        some named ∧
      named.map Prod.fst = fields.map Prod.fst ∧
      ∀ name value, fields.lookup name = some value →
        ∃ part, named.lookup name = some part ∧ part.Tells value := by
  induction docs generalizing fields with
  | nil =>
    obtain rfl := List.map_eq_nil_iff.mp keys.symm
    exact ⟨[], rfl, rfl, fun name value hvalue => by cases hvalue⟩
  | cons entry docs ih =>
    cases fields with
    | nil => cases keys
    | cons field fields =>
      obtain ⟨key, value⟩ := field
      obtain ⟨hkey, hkeys⟩ := List.cons.inj keys
      have hname : Document.textOf? entry.1 = some key := hkey
      cases parts with
      | cons first rest =>
        obtain ⟨named, hnamed, hfst, hlookup⟩ := ih hkeys rest
        refine ⟨(key, entry.2) :: named, ?_, by rw [List.map_cons, hfst, List.map_cons], ?_⟩
        · rw [List.mapM_cons, hname, hnamed]
          rfl
        · intro name wanted hwanted
          rw [List.lookup_cons] at hwanted ⊢
          split at hwanted
          · cases hwanted
            exact ⟨entry.2, rfl, first⟩
          · exact hlookup name wanted hwanted

namespace Document.Tells

variable {doc : Document}

/-- The fields of a record are those of the object, whatever else the object holds. -/
theorem exists_fields {fields : List (String × Json)} (h : doc.Tells (.ofFields fields))
    (names : List String) :
    ∃ known, doc.fields? names = some known ∧ known.Tell names (.ofFields fields) := by
  obtain ⟨placed, hplaced, ascending, -⟩ := Json.exists_ofFields fields
  rw [hplaced] at h ⊢
  cases h with
  | object keys parts =>
    obtain ⟨named, hnamed, hfst, hlookup⟩ := exists_named keys parts
    have distinct : (named.map Prod.fst).Nodup := by
      rw [hfst]
      exact List.pairwise_map.mpr (ascending.imp fun hlt => ne_of_lt hlt)
    have hknown : ((named.filter fun entry => names.contains entry.1).map Prod.fst).Nodup :=
      distinct.sublist (List.filter_sublist.map _)
    refine ⟨named.filter fun entry => names.contains entry.1, ?_, ?_⟩
    · rw [fields?, objectFields?, hnamed]
      · exact if_pos (List.all_eq_true.mpr fun name _ =>
          decide_eq_true (length_filter_key_le hknown name))
      · rintro items ⟨⟩
    · intro name hname value hvalue
      rw [lookup_filter_key (List.contains_iff_mem.mpr hname)]
      exact hlookup name value hvalue

end Document.Tells

/-- A field is read as its value is. -/
theorem Fields.Tell.read {α : Type} {known : Fields} {names : List String} {object value : Json}
    (h : known.Tell names object) {name : String} (hname : name ∈ names)
    (hvalue : object.get? name = some value) {default x : α} {content : Document → Option α}
    (hcontent : ∀ part : Document, part.Tells value → content part = some x) :
    known.read name default content = some x := by
  obtain ⟨part, hpart, htells⟩ := h name hname value hvalue
  rw [Fields.read, hpart]
  exact hcontent part htells

/-! ### What is read of fields -/

theorem Document.lt_of_natural? {doc : Document} {bound n : Nat}
    (h : doc.natural? bound = some n) : n < bound := by
  cases doc with
  | number numeral =>
    rw [Document.natural?, Numeral.natural?] at h
    split at h
    · next hsmall =>
      cases h
      exact of_decide_eq_true (Bool.and_eq_true_iff.mp hsmall).2
    · cases h
  | null | bool | text | array | object => cases h

/-- A count is below its bound, also where the record does not write it. -/
theorem Fields.lt_of_read {fields : Fields} {name : String} {bound n : Nat}
    (h : fields.read name 0 (Document.natural? bound) = some n) (hbound : 0 < bound) :
    n < bound := by
  rw [Fields.read] at h
  split at h
  · cases h
    exact hbound
  · exact Document.lt_of_natural? h

/-- A list is read exactly where each item is. -/
theorem mapM_eq_some_iff {α β : Type} {f : α → Option β} {xs : List α} {ys : List β} :
    xs.mapM f = some ys ↔ xs.map f = ys.map some := by
  induction xs generalizing ys with
  | nil =>
    rw [List.mapM_nil, List.map_nil, eq_comm (a := []), List.map_eq_nil_iff]
    exact ⟨fun h => (Option.some.inj h).symm, fun h => h ▸ rfl⟩
  | cons x xs ih =>
    rw [List.mapM_cons, List.map_cons, eq_comm (b := ys.map some), List.map_eq_cons_iff]
    simp only [Option.bind_eq_bind, Option.bind_eq_some_iff, ih, Option.pure_def,
      Option.some.injEq]
    constructor
    · rintro ⟨y, hy, rest, hrest, rfl⟩
      exact ⟨y, rest, rfl, hy.symm, hrest.symm⟩
    · rintro ⟨y, rest, rfl, hy, hrest⟩
      exact ⟨y, hy.symm, rest, hrest.symm, rfl⟩

theorem exists_of_mem_mapM {α β : Type} {f : α → Option β} {xs : List α} {ys : List β}
    (h : xs.mapM f = some ys) {y : β} (hy : y ∈ ys) : ∃ x ∈ xs, f x = some y := by
  have hmem := List.mem_map_of_mem hy (f := some)
  rw [← mapM_eq_some_iff.mp h] at hmem
  exact List.mem_map.mp hmem

/-- What is in a list was read of an item. -/
theorem Fields.exists_of_mem_read {α : Type} {fields : Fields} {name : String} {xs : List α}
    {item : Document → Option α} (h : fields.read name [] (Document.list? item) = some xs) {x : α}
    (hx : x ∈ xs) : ∃ part, item part = some x := by
  rw [Fields.read] at h
  split at h
  · cases h
    cases hx
  · next part _ =>
    cases part with
    | array items =>
      obtain ⟨part, -, hpart⟩ := exists_of_mem_mapM h hx
      exact ⟨part, hpart⟩
    | null | bool | number | text | object => cases h

end GatewayProbe

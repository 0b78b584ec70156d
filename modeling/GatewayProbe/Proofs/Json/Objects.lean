/-
Objects that are put together.

An object is made field by field, each one put in its place, and so it is in order whatever fields
it is made of. What holds of the values put in holds of the values that are in it.

* `Json.mem_insertField`, `Json.ascending_insertField` — a field put among others;
* `Json.exists_ofFields` — an object is in order, and holds nothing but what it was given;
* `Json.get?_ofFields_of_mem`, `Json.get?_ofFields_of_ne` — its fields, and those it does not have;
* `Json.get?_ofFields_eq_getLast?` — of fields with one key the last counts;
* `Json.plain_ofFields`, `Json.Plain.set` — objects of plain values are plain;
* `Json.Plain.parse?_compact` — a plain value is read back from its compact form.
-/
import Mathlib.Data.String.Basic
import GatewayProbe.Proofs.Json.Printing

namespace GatewayProbe.Json

/-! ### Fields in their places -/

section Fields

variable {key : String} {value : Json} {fields : List (String × Json)}

theorem mem_insertField {field : String × Json} (h : field ∈ insertField key value fields) :
    field = (key, value) ∨ field ∈ fields := by
  fun_induction insertField key value fields with
  | case1 => exact .inl (List.mem_singleton.mp h)
  | case2 other rest =>
    exact (List.mem_cons.mp h).imp_right (List.mem_cons_of_mem _)
  | case3 name other rest hne hlt => exact List.mem_cons.mp h
  | case4 name other rest hne hnlt ih =>
    rcases List.mem_cons.mp h with rfl | h
    · exact .inr List.mem_cons_self
    · exact (ih h).imp_right (List.mem_cons_of_mem _)

/-- A field is put where it belongs. -/
theorem ascending_insertField (ascending : fields.Pairwise fun a b => a.1 < b.1) :
    (insertField key value fields).Pairwise fun a b => a.1 < b.1 := by
  fun_induction insertField key value fields with
  | case1 => exact List.pairwise_singleton _ _
  | case2 other rest =>
    obtain ⟨hfirst, hrest⟩ := List.pairwise_cons.mp ascending
    exact List.pairwise_cons.mpr ⟨hfirst, hrest⟩
  | case3 name other rest hne hlt =>
    refine List.pairwise_cons.mpr ⟨fun field hfield => ?_, ascending⟩
    rcases List.mem_cons.mp hfield with rfl | hfield
    · exact hlt
    · exact lt_trans hlt ((List.pairwise_cons.mp ascending).1 field hfield)
  | case4 name other rest hne hnlt ih =>
    obtain ⟨hfirst, hrest⟩ := List.pairwise_cons.mp ascending
    refine List.pairwise_cons.mpr ⟨fun field hfield => ?_, ih hrest⟩
    rcases mem_insertField hfield with rfl | hfield
    · exact lt_of_le_of_ne (not_lt.mp hnlt) (Ne.symm hne)
    · exact hfirst field hfield

theorem lookup_insertField_self : (insertField key value fields).lookup key = some value := by
  fun_induction insertField key value fields with
  | case1 | case2 | case3 => exact List.lookup_cons_self
  | case4 name other rest hne hnlt ih => rw [List.lookup_cons, beq_false_of_ne hne, ih]

end Fields

/-! ### What is in an object -/

section Objects

variable {depth : Nat} {fields : List (String × Json)}

theorem plainItems_iff {items : List Json} :
    PlainItems depth items ↔ ∀ item ∈ items, item.Plain depth := by
  induction items with
  | nil => simp [PlainItems]
  | cons item items ih => rw [PlainItems, ih, List.forall_mem_cons]

theorem plainFields_iff :
    PlainFields depth fields ↔ ∀ field ∈ fields, field.2.Plain depth := by
  induction fields with
  | nil => simp [PlainFields]
  | cons field fields ih => rw [PlainFields, ih, List.forall_mem_cons]

theorem plain_array {items : List Json} (h : ∀ item ∈ items, item.Plain depth) :
    (array items).Plain (depth + 1) := by
  rw [Plain]
  exact plainItems_iff.mpr h

theorem plain_text (s : String) : (text s).Plain depth := by
  rw [Plain]
  trivial

theorem plain_bool (b : Bool) : (bool b).Plain depth := by
  rw [Plain]
  trivial

theorem plain_ofNat {n : Nat} (h : n < Decimal.word64) : (ofNat n).Plain depth := by
  rw [ofNat, Plain]
  exact ⟨by omega, by omega⟩

theorem insertField_plain {key : String} {value : Json} (hvalue : value.Plain depth)
    (h : ∀ field ∈ fields, field.2.Plain depth) :
    ∀ field ∈ insertField key value fields, field.2.Plain depth := by
  intro field hfield
  rcases mem_insertField hfield with rfl | hfield
  · exact hvalue
  · exact h field hfield

theorem foldl_insertField {acc : List (String × Json)}
    (ascending : acc.Pairwise fun a b => a.1 < b.1) (fields : List (String × Json)) :
    (fields.foldl (fun acc field => insertField field.1 field.2 acc) acc).Pairwise
        (fun a b => a.1 < b.1) ∧
      ∀ field ∈ fields.foldl (fun acc field => insertField field.1 field.2 acc) acc,
        field ∈ acc ∨ field ∈ fields := by
  induction fields generalizing acc with
  | nil => exact ⟨ascending, fun field h => .inl h⟩
  | cons first fields ih =>
    obtain ⟨hplaced, hmem⟩ := ih (ascending_insertField ascending)
    refine ⟨hplaced, fun field hfield => ?_⟩
    rcases hmem field hfield with hacc | hlater
    · rcases mem_insertField hacc with rfl | hacc
      · exact .inr List.mem_cons_self
      · exact .inl hacc
    · exact .inr (List.mem_cons_of_mem _ hlater)

/-- An object is in order, and holds nothing but what it was given. -/
theorem exists_ofFields (fields : List (String × Json)) : ∃ placed,
    ofFields fields = .object placed ∧ placed.Pairwise (fun a b => a.1 < b.1) ∧
      ∀ field ∈ placed, field ∈ fields := by
  obtain ⟨ascending, hmem⟩ := foldl_insertField .nil fields
  exact ⟨_, rfl, ascending, fun field h => (hmem field h).resolve_left List.not_mem_nil⟩

/-- An object of plain values is plain, in whatever order they are given. -/
theorem plain_ofFields (h : ∀ field ∈ fields, field.2.Plain depth) :
    (ofFields fields).Plain (depth + 1) := by
  obtain ⟨placed, hplaced, ascending, hmem⟩ := exists_ofFields fields
  rw [hplaced, Plain]
  exact ⟨plainFields_iff.mpr fun field hfield => h field (hmem field hfield), ascending⟩

theorem Plain.set {body value : Json} {key : String} (h : body.Plain (depth + 1))
    (hvalue : value.Plain depth) : (body.set key value).Plain (depth + 1) := by
  cases body with
  | object fields =>
    rw [Plain] at h
    rw [Json.set, Plain]
    exact ⟨plainFields_iff.mpr (insertField_plain hvalue (plainFields_iff.mp h.1)),
      ascending_insertField h.2⟩
  | null | bool | number | text | array => exact h

theorem get?_set_of_ne {body value : Json} {key name : String} (h : name ≠ key) :
    (body.set key value).get? name = body.get? name := by
  cases body with
  | object fields => exact lookup_insertField_of_ne h
  | null | bool | number | text | array => rfl

/-- Fields put in later do not touch another one. -/
theorem lookup_foldl_of_ne {name : String} (h : ∀ field ∈ fields, field.1 ≠ name)
    (acc : List (String × Json)) :
    (fields.foldl (fun acc field => insertField field.1 field.2 acc) acc).lookup name =
      acc.lookup name := by
  induction fields generalizing acc with
  | nil => rfl
  | cons field fields ih =>
    obtain ⟨hfield, hfields⟩ := List.forall_mem_cons.mp h
    rw [List.foldl_cons, ih hfields, lookup_insertField_of_ne hfield.symm]

theorem get?_ofFields_of_ne {name : String} (h : ∀ field ∈ fields, field.1 ≠ name) :
    (ofFields fields).get? name = none :=
  lookup_foldl_of_ne h []

/-- Of the fields with one key the last is there. -/
theorem get?_ofFields_eq_getLast? (fields : List (String × Json)) (name : String) :
    (ofFields fields).get? name =
      ((fields.filter fun field => field.1 = name).map Prod.snd).getLast? := by
  -- Fields are put in from the front, so the induction takes the last one away.
  induction fields using List.reverseRecOn with
  | nil => rfl
  | append_singleton fields field ih =>
    rw [ofFields, get?] at ih ⊢
    rw [List.foldl_append, List.foldl_cons, List.foldl_nil, List.filter_append, List.map_append,
      List.getLast?_append, ← ih]
    by_cases h : field.1 = name
    · rw [List.filter_cons_of_pos (by simpa using h), ← h, lookup_insertField_self]
      rfl
    · rw [List.filter_cons_of_neg (by simpa using h), lookup_insertField_of_ne (Ne.symm h)]
      rfl

/-- Each of the fields is there, if no two have the same key. -/
theorem get?_ofFields_of_mem {field : String × Json} (distinct : (fields.map Prod.fst).Nodup)
    (h : field ∈ fields) : (ofFields fields).get? field.1 = some field.2 := by
  obtain ⟨front, back, rfl⟩ := List.append_of_mem h
  have hback : ∀ other ∈ back, other.1 ≠ field.1 := by
    rw [List.map_append, List.map_cons] at distinct
    intro other hother heq
    have hnew := (List.nodup_cons.mp (List.nodup_append.mp distinct).2.1).1
    exact hnew (heq ▸ List.mem_map_of_mem hother)
  rw [ofFields, get?, List.foldl_append, List.foldl_cons, lookup_foldl_of_ne hback,
    lookup_insertField_self]

end Objects

/-- A plain value is read back from its compact form. -/
theorem Plain.parse?_compact {value : Json} (h : value.Plain Document.maxDepth) :
    Json.parse? value.compact = some value :=
  h.writtenAs_compact.parse?_eq

end GatewayProbe.Json

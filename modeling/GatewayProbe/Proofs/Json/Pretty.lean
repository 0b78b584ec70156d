/-
Values printed on several lines are read back.

The reader of records asks a document for its fields and not for a value, so it is not enough that
the printed text is read as the value: the fields of the document must be those of the value, in
their order and none of them twice. A document that *tells* a value has the same parts throughout.

* `Document.Tells` — the document has the parts of the value;
* `Json.Exact` — there is no double in the value;
* `Json.Exact.exists_document` — what is printed of an exact value is a document that tells it;
* `Json.Exact.parse?_pretty` — and the text is read as such a document.
-/
import GatewayProbe.Proofs.Json.Objects

namespace GatewayProbe

/-- The document has the parts of the value, in their order. A numeral tells a whole number to
readers of whole numbers, however large it is. -/
inductive Document.Tells : Document → Json → Prop
  | null : Tells .null .null
  | bool (value : Bool) : Tells (.bool value) (.bool value)
  | whole {numeral : Numeral} {n : Int}
      (reads : ∀ m bound : Nat, n = m → m < bound → numeral.natural? bound = some m) :
      Tells (.number numeral) (.number (.whole n))
  | text {pieces : List Piece} {s : String} (content : Document.textOf? pieces = some s) :
      Tells (.text pieces) (.text s)
  | array {docs : List Document} {items : List Json} (parts : List.Forall₂ Tells docs items) :
      Tells (.array docs) (.array items)
  | object {docs : List (List Piece × Document)} {fields : List (String × Json)}
      (keys : docs.map (fun d => Document.textOf? d.1) = fields.map fun f => some f.1)
      (parts : List.Forall₂ Tells (docs.map Prod.snd) (fields.map Prod.snd)) :
      Tells (.object docs) (.object fields)

namespace Json

/-- A value without doubles. -/
inductive Exact : Json → Prop
  | null : Exact .null
  | bool (value : Bool) : Exact (.bool value)
  | whole (n : Int) : Exact (.number (.whole n))
  | text (s : String) : Exact (.text s)
  | array {items : List Json} (parts : ∀ item ∈ items, Exact item) : Exact (.array items)
  | object {fields : List (String × Json)} (parts : ∀ field ∈ fields, Exact field.2) :
      Exact (.object fields)

/-! ### Exact values -/

namespace Exact

theorem ofNat (n : Nat) : (Json.ofNat n).Exact := .whole n

theorem ofText? (s : Option String) : (Json.ofText? s).Exact := by
  cases s with
  | none => exact .null
  | some s => exact .text s

theorem ofTexts (texts : List String) : (Json.ofTexts texts).Exact := by
  refine .array fun item hitem => ?_
  obtain ⟨s, -, rfl⟩ := List.mem_map.mp hitem
  exact .text s

theorem ofFields {fields : List (String × Json)} (h : ∀ field ∈ fields, field.2.Exact) :
    (Json.ofFields fields).Exact := by
  obtain ⟨placed, hplaced, -, hmem⟩ := exists_ofFields fields
  rw [hplaced]
  exact .object fun field hfield => h field (hmem field hfield)

end Exact

/-! ### Printed documents -/

theorem isSpaces_newline (level : Nat) : Document.IsSpaces (newline level) := by
  intro c hc
  rcases List.mem_cons.mp hc with rfl | hc
  · rfl
  · rw [List.eq_of_mem_replicate hc]
    rfl

/-- A whole number of any size is printed as a numeral that tells it. -/
theorem exists_numeral_tells (n : Int) : ∃ numeral : Numeral,
    numeral.WrittenAs (Number.whole n).chars ∧
      ∀ m bound : Nat, n = m → m < bound → numeral.natural? bound = some m := by
  refine ⟨_, Number.writtenAs_whole n, ?_⟩
  rintro m bound rfl hm
  simp [Numeral.natural?, Numeral.isWhole, Decimal.ofDigits_digits, hm]

/-- What is printed of a value at every level is a document that tells it. -/
def Printed (value : Json) : Prop :=
  ∀ level, ∃ doc : Document, doc.WrittenAs (value.prettyChars level) ∧ doc.Tells value

theorem exists_items {items : List Json} (h : ∀ item ∈ items, item.Printed) (level : Nat)
    (filled : items ≠ []) {ws : List Char} (spaces : Document.IsSpaces ws) : ∃ docs,
    Document.ItemsWrittenAs docs (prettyItems level items ++ ws) ∧
      List.Forall₂ Document.Tells docs items := by
  induction items with
  | nil => exact absurd rfl filled
  | cons item rest ih =>
    obtain ⟨hitem, hrest⟩ := List.forall_mem_cons.mp h
    obtain ⟨doc, hwritten, htells⟩ := hitem level
    cases rest with
    | nil =>
      refine ⟨[doc], ?_, .cons htells .nil⟩
      rw [prettyItems, List.append_assoc]
      exact .one (isSpaces_newline level) hwritten spaces
    | cons next rest =>
      obtain ⟨docs, hdocs, htold⟩ := ih hrest (List.cons_ne_nil _ _)
      refine ⟨doc :: docs, ?_, .cons htells htold⟩
      rw [prettyItems, List.append_assoc, List.append_assoc, List.cons_append]
      · exact .more (isSpaces_newline level) hwritten isSpaces_nil hdocs
      · exact List.cons_ne_nil _ _

theorem exists_fields {fields : List (String × Json)} (h : ∀ field ∈ fields, field.2.Printed)
    (level : Nat) (filled : fields ≠ []) {ws : List Char} (spaces : Document.IsSpaces ws) :
    ∃ docs, Document.FieldsWrittenAs docs (prettyFields level fields ++ ws) ∧
      docs.map (fun d => Document.textOf? d.1) = fields.map (fun f => some f.1) ∧
        List.Forall₂ Document.Tells (docs.map Prod.snd) (fields.map Prod.snd) := by
  have hblank : Document.IsSpaces [' '] := by
    rintro c hc
    rw [List.mem_singleton.mp hc]
    rfl
  induction fields with
  | nil => exact absurd rfl filled
  | cons field rest ih =>
    obtain ⟨key, value⟩ := field
    obtain ⟨hfield, hrest⟩ := List.forall_mem_cons.mp h
    obtain ⟨doc, hwritten, htells⟩ := hfield level
    obtain ⟨name, hname, hkey⟩ := exists_text key
    cases rest with
    | nil =>
      refine ⟨[(name, doc)], ?_, ?_, .cons htells .nil⟩
      · have hone := Document.FieldsWrittenAs.one (isSpaces_newline level) hname isSpaces_nil
          hblank hwritten spaces
        simpa [prettyFields, quoted] using hone
      · simp [hkey]
    | cons next rest =>
      obtain ⟨docs, hdocs, hkeys, htold⟩ := ih hrest (List.cons_ne_nil _ _)
      refine ⟨(name, doc) :: docs, ?_, ?_, .cons htells htold⟩
      · have hmore := Document.FieldsWrittenAs.more (isSpaces_newline level) hname isSpaces_nil
          hblank hwritten isSpaces_nil hdocs
        simpa [prettyFields, quoted] using hmore
      · rw [List.map_cons, hkeys, hkey]
        rfl

/-- An exact value is printed as a document that tells it. -/
theorem Exact.exists_document {value : Json} (h : value.Exact) : value.Printed := by
  intro level
  induction h generalizing level with
  | null => exact ⟨.null, .null, .null⟩
  | bool value => exact ⟨.bool value, .bool value, .bool value⟩
  | whole n =>
    obtain ⟨numeral, hwritten, hreads⟩ := exists_numeral_tells n
    exact ⟨.number numeral, .number hwritten, .whole hreads⟩
  | text s =>
    obtain ⟨pieces, hpieces, hcontent⟩ := exists_text s
    exact ⟨.text pieces, .text hpieces, .text hcontent⟩
  | @array items _ ih =>
    cases items with
    | nil => exact ⟨.array [], .emptyArray isSpaces_nil, .array .nil⟩
    | cons item rest =>
      obtain ⟨docs, hdocs, htold⟩ := exists_items ih (level + 1) (List.cons_ne_nil _ _)
        (isSpaces_newline level)
      exact ⟨.array docs, .array hdocs, .array htold⟩
  | @object fields _ ih =>
    cases fields with
    | nil => exact ⟨.object [], .emptyObject isSpaces_nil, .object rfl .nil⟩
    | cons field rest =>
      obtain ⟨docs, hdocs, hkeys, htold⟩ := exists_fields ih (level + 1)
        (List.cons_ne_nil _ _) (isSpaces_newline level)
      exact ⟨.object docs, .object hdocs, .object hkeys htold⟩

/-- **What is printed of an exact value on several lines is read as a document that tells it.** -/
theorem Exact.parse?_pretty {value : Json} (h : value.Exact) :
    ∃ doc, Document.parse? value.pretty = some doc ∧ doc.Tells value := by
  obtain ⟨doc, hwritten, htells⟩ := h.exists_document 0
  refine ⟨doc, ?_, htells⟩
  have hparse := hwritten.parseChars?_eq isSpaces_nil isSpaces_nil
  rw [Document.parse?, pretty, String.toList_ofList]
  rwa [List.nil_append, List.append_nil] at hparse

end Json
end GatewayProbe

/-
Printed values are read back.

The printer chooses one way to write a value: no blanks, and only the escapes that are needed. A
value is *plain* where that way tells everything there is to know of it, which a double may not do.

* `Json.Plain` — no doubles, whole numbers of 64 bits, keys in ascending order, a bounded depth;
* `Json.Plain.writtenAs_compact` — the compact form of a plain value writes that value.
-/
import GatewayProbe.Json.Printer
import GatewayProbe.Proofs.Json.Grammar

namespace GatewayProbe

/-! ### Quoted texts -/

namespace Json

theorem unit?_hexDigit : ∀ n < 0x20,
    Document.unit? '0' '0' (hexDigit (n / 16)) (hexDigit (n % 16)) = some n := by decide

/-- A character in quotes is one piece, which stands for it. -/
theorem exists_piece (c : Char) : ∃ piece : Piece, piece.WrittenAs (quotedChar c) ∧
    ∀ rest, Document.charsOf? (piece :: rest) = (Document.charsOf? rest).map (c :: ·) := by
  rw [quotedChar.eq_def]
  split
  · exact ⟨_, .letter '"' '"' rfl, fun rest => rfl⟩
  · exact ⟨_, .letter '\\' '\\' rfl, fun rest => rfl⟩
  · exact ⟨_, .letter 'b' '\x08' rfl, fun rest => rfl⟩
  · exact ⟨_, .letter 'f' '\x0c' rfl, fun rest => rfl⟩
  · exact ⟨_, .letter 'n' '\n' rfl, fun rest => rfl⟩
  · exact ⟨_, .letter 'r' '\r' rfl, fun rest => rfl⟩
  · exact ⟨_, .letter 't' '\t' rfl, fun rest => rfl⟩
  · next hquote hbackslash _ _ _ _ _ =>
    split
    · next hcontrol =>
      -- A control character is written as a unit, which is no half of a character.
      refine ⟨.unit c.toNat, .unit _ _ _ _ _ (unit?_hexDigit _ hcontrol), fun rest => ?_⟩
      have hhigh : Document.isHigh c.toNat = false := by
        simp only [Document.isHigh, Bool.and_eq_false_iff, decide_eq_false_iff_not]
        omega
      have hlow : Document.isLow c.toNat = false := by
        simp only [Document.isLow, Bool.and_eq_false_iff, decide_eq_false_iff_not]
        omega
      rw [Document.charsOf?.eq_def]
      dsimp only
      rw [hhigh, if_neg Bool.false_ne_true, hlow, if_neg Bool.false_ne_true, Char.ofNat_toNat]
    · next hprintable =>
      exact ⟨.char c, .plain c hquote hbackslash hprintable, fun rest => by rw [Document.charsOf?]⟩

theorem exists_pieces (cs : List Char) : ∃ pieces,
    Document.PiecesWrittenAs pieces (cs.flatMap quotedChar) ∧
      Document.charsOf? pieces = some cs := by
  induction cs with
  | nil => exact ⟨[], .nil, by rw [Document.charsOf?]⟩
  | cons c cs ih =>
    obtain ⟨piece, hpiece, hchars⟩ := exists_piece c
    obtain ⟨pieces, hpieces, hrest⟩ := ih
    refine ⟨piece :: pieces, ?_, by rw [hchars, hrest, Option.map_some]⟩
    rw [List.flatMap_cons]
    exact .cons hpiece hpieces

theorem exists_text (s : String) : ∃ pieces,
    Document.PiecesWrittenAs pieces (s.toList.flatMap quotedChar) ∧
      Document.textOf? pieces = some s := by
  obtain ⟨pieces, hpieces, hchars⟩ := exists_pieces s.toList
  refine ⟨pieces, hpieces, ?_⟩
  rw [Document.textOf?, hchars, Option.map_some, String.ofList_toList]

end Json

/-! ### Whole numbers -/

namespace Decimal

theorem ofDigits_digits (n : Nat) : ofDigits (digits n) = n := by
  conv_rhs => rw [← Nat.ofDigitChars_ten_toDigits (n := n), Nat.ofDigitChars_eq_foldl]
  rw [ofDigits, digits]
  simp only [Nat.mul_comm]

theorem digitChar_ne_zero : ∀ n < 10, 0 < n → n.digitChar ≠ '0' := by decide

theorem head?_digits {n : Nat} (h : 0 < n) : (digits n).head? ≠ some '0' := by
  induction n using Nat.strongRecOn with
  | ind n ih =>
    rw [digits]
    rcases Nat.lt_or_ge n 10 with hlt | hge
    · rw [Nat.toDigits_of_lt_base hlt, List.head?_cons]
      exact fun heq => digitChar_ne_zero n hlt h (Option.some.inj heq)
    · rw [Nat.toDigits_of_base_le (by decide) hge,
        List.head?_append_of_ne_nil _ Nat.toDigits_ne_nil]
      exact ih (n / 10) (by omega) (by omega)

theorem isWholePart_digits (n : Nat) : Numeral.IsWholePart (digits n) := by
  rcases Nat.eq_zero_or_pos n with rfl | hn
  · exact .inl rfl
  · exact .inr ⟨⟨Nat.toDigits_ne_nil, fun d hd =>
      Nat.isDigit_of_mem_toDigits (by decide) (by decide) hd⟩, head?_digits hn⟩

end Decimal

/-- A whole number is printed as its sign and its digits. -/
theorem Number.writtenAs_whole (n : Int) : Numeral.WrittenAs
    ⟨decide (n < 0), Decimal.digits n.natAbs, none, none⟩ (Number.whole n).chars := by
  have hwhole := Decimal.isWholePart_digits n.natAbs
  rcases Int.lt_or_le n 0 with hneg | hpos
  · have hwritten := Numeral.WrittenAs.intro (n := ⟨true, Decimal.digits n.natAbs, none, none⟩)
      [] [] hwhole .none .none
    rw [Number.chars, if_pos hneg, decide_eq_true hneg]
    simpa using hwritten
  · have hwritten := Numeral.WrittenAs.intro (n := ⟨false, Decimal.digits n.natAbs, none, none⟩)
      [] [] hwhole .none .none
    rw [Number.chars, if_neg (by omega), decide_eq_false (by omega)]
    simpa using hwritten

/-- A whole number of 64 bits is printed as a numeral that stands for it. -/
theorem Number.exists_numeral {n : Int} (hlow : -(Decimal.signed64 : Int) ≤ n)
    (hhigh : n < Decimal.word64) : ∃ numeral : Numeral,
    numeral.WrittenAs (Number.whole n).chars ∧ numeral.number? = some (.whole n) := by
  have hword : Decimal.signed64 < Decimal.word64 := by decide
  refine ⟨_, Number.writtenAs_whole n, ?_⟩
  rw [Numeral.number?, Decimal.ofDigits_digits]
  dsimp only
  rcases Int.lt_or_le n 0 with hneg | hpos
  · have hbound : 0 < n.natAbs ∧ n.natAbs ≤ Decimal.signed64 := by omega
    have hvalue : -(n.natAbs : Int) = n := by omega
    rw [if_neg (by simp [hneg]), if_pos (by simp [Numeral.isWhole, hneg, hbound]), hvalue]
  · have hbound : n.natAbs < Decimal.word64 := by omega
    have hvalue : (n.natAbs : Int) = n := by omega
    rw [if_pos (by simp [Numeral.isWhole, hpos, hbound]), hvalue]

/-! ### Objects -/

namespace Json

theorem insertField_last {key : String} {value : Json} {fields : List (String × Json)}
    (h : ∀ field ∈ fields, field.1 < key) :
    insertField key value fields = fields ++ [(key, value)] := by
  induction fields with
  | nil => rfl
  | cons field fields ih =>
    have hfield := h field List.mem_cons_self
    rw [insertField, if_neg (fun heq => String.lt_irrefl _ (heq ▸ hfield)),
      if_neg (String.lt_asymm hfield), ih fun field hf => h field (List.mem_cons_of_mem _ hf),
      List.cons_append]

/-- Fields in ascending order of their keys are an object as they stand. -/
theorem ofFields_eq {fields : List (String × Json)}
    (ascending : fields.Pairwise fun a b => a.1 < b.1) : ofFields fields = .object fields := by
  -- Each field goes behind those before it, so the fold only appends.
  have hfold : ∀ acc : List (String × Json), (acc ++ fields).Pairwise (fun a b => a.1 < b.1) →
      fields.foldl (fun acc field => insertField field.1 field.2 acc) acc = acc ++ fields := by
    clear ascending
    induction fields with
    | nil => simp
    | cons field fields ih =>
      intro acc hacc
      have hlast : ∀ f ∈ acc, f.1 < field.1 := fun f hf =>
        (List.pairwise_append.mp hacc).2.2 f hf field List.mem_cons_self
      rw [List.foldl_cons, insertField_last hlast, ih, List.append_assoc, List.singleton_append]
      rwa [List.append_assoc, List.singleton_append]
  rw [ofFields, hfold [] ascending, List.nil_append]

/-! ### Values -/

mutual

/-- Values whose compact form tells all of them, with containers that nest `depth` deep at most. -/
def Plain (depth : Nat) : Json → Prop
  | .null => True
  | .bool _ => True
  | .number (.whole n) => -(Decimal.signed64 : Int) ≤ n ∧ n < Decimal.word64
  | .number (.double _) => False
  | .text _ => True
  | .array items =>
    match depth with
    | 0 => False
    | depth + 1 => PlainItems depth items
  | .object fields =>
    match depth with
    | 0 => False
    | depth + 1 => PlainFields depth fields ∧ fields.Pairwise fun a b => a.1 < b.1

/-- Items all of which are plain. -/
def PlainItems (depth : Nat) : List Json → Prop
  | [] => True
  | item :: items => Plain depth item ∧ PlainItems depth items

/-- Fields all of whose values are plain. -/
def PlainFields (depth : Nat) : List (String × Json) → Prop
  | [] => True
  | (_, value) :: fields => Plain depth value ∧ PlainFields depth fields

end

theorem isSpaces_nil : Document.IsSpaces [] := by
  rintro c ⟨⟩

mutual

theorem Plain.exists_document {depth : Nat} {value : Json} (h : value.Plain depth) :
    ∃ doc : Document, doc.WrittenAs value.compactChars ∧ doc.keepWithin depth = some value := by
  match value with
  | .null => exact ⟨.null, .null, by rw [Document.keepWithin]⟩
  | .bool value => exact ⟨.bool value, .bool value, by rw [Document.keepWithin]⟩
  | .number (.whole n) =>
    rw [Plain] at h
    obtain ⟨numeral, hwritten, hnumber⟩ := Number.exists_numeral h.1 h.2
    exact ⟨.number numeral, .number hwritten, by rw [Document.keepWithin, hnumber, Option.map_some]⟩
  | .number (.double x) =>
    rw [Plain] at h
    cases h
  | .text s =>
    obtain ⟨pieces, hpieces, htext⟩ := exists_text s
    exact ⟨.text pieces, .text hpieces, by rw [Document.keepWithin, htext, Option.map_some]⟩
  | .array [] =>
    cases depth with
    | zero => simp [Plain] at h
    | succ depth =>
      exact ⟨.array [], .emptyArray isSpaces_nil, by
        rw [Document.keepWithin, Document.keepItems, Option.map_some]⟩
  | .array (item :: items) =>
    cases depth with
    | zero => simp [Plain] at h
    | succ depth =>
      rw [Plain] at h
      obtain ⟨docs, hwritten, hkept⟩ := PlainItems.exists_documents h (by simp)
      exact ⟨.array docs, .array hwritten, by rw [Document.keepWithin, hkept, Option.map_some]⟩
  | .object [] =>
    cases depth with
    | zero => simp [Plain] at h
    | succ depth =>
      exact ⟨.object [], .emptyObject isSpaces_nil, by
        rw [Document.keepWithin, Document.keepFields, Option.map_some, ofFields_eq .nil]⟩
  | .object (field :: fields) =>
    cases depth with
    | zero => simp [Plain] at h
    | succ depth =>
      rw [Plain] at h
      obtain ⟨docs, hwritten, hkept⟩ := PlainFields.exists_documents h.1 (by simp)
      exact ⟨.object docs, .object hwritten, by
        rw [Document.keepWithin, hkept, Option.map_some, ofFields_eq h.2]⟩

theorem PlainItems.exists_documents {depth : Nat} {items : List Json}
    (h : PlainItems depth items) (filled : items ≠ []) : ∃ docs,
    Document.ItemsWrittenAs docs (compactItems items) ∧
      Document.keepItems depth docs = some items := by
  match items with
  | [] => exact absurd rfl filled
  | [item] =>
    rw [PlainItems] at h
    obtain ⟨doc, hwritten, hkept⟩ := Plain.exists_document h.1
    refine ⟨[doc], ?_, ?_⟩
    · have hitem := Document.ItemsWrittenAs.one isSpaces_nil hwritten isSpaces_nil
      rwa [List.append_nil] at hitem
    · simp [Document.keepItems, hkept]
  | item :: next :: items =>
    rw [PlainItems] at h
    obtain ⟨doc, hwritten, hkept⟩ := Plain.exists_document h.1
    obtain ⟨docs, hitems, hrest⟩ := PlainItems.exists_documents h.2 (by simp)
    exact ⟨doc :: docs, .more isSpaces_nil hwritten isSpaces_nil hitems, by
      simp [Document.keepItems, hkept, hrest]⟩

theorem PlainFields.exists_documents {depth : Nat} {fields : List (String × Json)}
    (h : PlainFields depth fields) (filled : fields ≠ []) : ∃ docs,
    Document.FieldsWrittenAs docs (compactFields fields) ∧
      Document.keepFields depth docs = some fields := by
  match fields with
  | [] => exact absurd rfl filled
  | [(key, value)] =>
    rw [PlainFields] at h
    obtain ⟨name, hname, hkey⟩ := exists_text key
    obtain ⟨doc, hwritten, hkept⟩ := Plain.exists_document h.1
    refine ⟨[(name, doc)], ?_, ?_⟩
    · have hfield := Document.FieldsWrittenAs.one isSpaces_nil hname isSpaces_nil isSpaces_nil
        hwritten isSpaces_nil
      simpa [compactFields, quoted] using hfield
    · simp [Document.keepFields, hkey, hkept]
  | (key, value) :: next :: fields =>
    rw [PlainFields] at h
    obtain ⟨name, hname, hkey⟩ := exists_text key
    obtain ⟨doc, hwritten, hkept⟩ := Plain.exists_document h.1
    obtain ⟨docs, hfields, hrest⟩ := PlainFields.exists_documents h.2 (by simp)
    refine ⟨(name, doc) :: docs, ?_, ?_⟩
    · have hmore := Document.FieldsWrittenAs.more isSpaces_nil hname isSpaces_nil isSpaces_nil
        hwritten isSpaces_nil hfields
      simpa [compactFields, quoted] using hmore
    · simp [Document.keepFields, hkey, hkept, hrest]

end

/-- **The compact form of a plain value writes it.** -/
theorem Plain.writtenAs_compact {value : Json} (h : value.Plain Document.maxDepth) :
    value.WrittenAs value.compact := by
  obtain ⟨doc, hwritten, hkept⟩ := h.exists_document
  exact .intro doc [] value.compactChars [] isSpaces_nil hwritten isSpaces_nil hkept (by
    rw [compact, String.toList_ofList, List.append_nil, List.nil_append])

end Json
end GatewayProbe

/-
JSON texts as they are written.

The grammar names everything that may be written in more than one way: blanks between the parts of
a document, escapes inside quotes, fractions and exponents. It says nothing of how a text is read.

* `Document.WrittenAs` — the characters of a document, with blanks inside it but not around it;
* `Document.WrittenAs.read` — the reader gives back every written document;
* `Json.WrittenAs` — a value is written by a text, with blanks around it;
* `Json.WrittenAs.parse?_eq` — and the text is read as that value.
-/
import Mathlib.Data.List.DropRight
import GatewayProbe.Json.Document
import GatewayProbe.Proofs.Json.Numerals

namespace GatewayProbe

/-! ### The grammar -/

/-- A piece of a quoted text as it is written: a character that needs no escape, an escape by a
letter, or four hexadecimal digits. -/
inductive Piece.WrittenAs : Piece → List Char → Prop
  | plain (c : Char) (quote : c ≠ '"') (backslash : c ≠ '\\') (printable : ¬ c.toNat < 0x20) :
      WrittenAs (.char c) [c]
  | letter (letter c : Char) (escape : Document.escape? letter = some c) :
      WrittenAs (.char c) ['\\', letter]
  | unit (a b c d : Char) (n : Nat) (digits : Document.unit? a b c d = some n) :
      WrittenAs (.unit n) ['\\', 'u', a, b, c, d]

namespace Document

/-- Pieces one after the other. -/
inductive PiecesWrittenAs : List Piece → List Char → Prop
  | nil : PiecesWrittenAs [] []
  | cons {piece : Piece} {pieces : List Piece} {cs rest : List Char} (head : piece.WrittenAs cs)
      (tail : PiecesWrittenAs pieces rest) : PiecesWrittenAs (piece :: pieces) (cs ++ rest)

/-- Nothing but blanks. -/
def IsSpaces (ws : List Char) : Prop := ∀ c ∈ ws, isSpace c = true

mutual

/-- A document as it is written, without blanks around it. -/
inductive WrittenAs : Document → List Char → Prop
  | null : WrittenAs .null "null".toList
  | bool (value : Bool) :
      WrittenAs (.bool value) (if value then "true".toList else "false".toList)
  | number {n : Numeral} {cs : List Char} (written : n.WrittenAs cs) : WrittenAs (.number n) cs
  | text {pieces : List Piece} {cs : List Char} (written : PiecesWrittenAs pieces cs) :
      WrittenAs (.text pieces) ('"' :: (cs ++ ['"']))
  | emptyArray {ws : List Char} (spaces : IsSpaces ws) :
      WrittenAs (.array []) ('[' :: (ws ++ [']']))
  | array {items : List Document} {cs : List Char} (written : ItemsWrittenAs items cs) :
      WrittenAs (.array items) ('[' :: (cs ++ [']']))
  | emptyObject {ws : List Char} (spaces : IsSpaces ws) :
      WrittenAs (.object []) ('{' :: (ws ++ ['}']))
  | object {fields : List (List Piece × Document)} {cs : List Char}
      (written : FieldsWrittenAs fields cs) : WrittenAs (.object fields) ('{' :: (cs ++ ['}']))

/-- Items with blanks around each and commas between them; there is at least one. -/
inductive ItemsWrittenAs : List Document → List Char → Prop
  | one {item : Document} {before cs after : List Char} (hbefore : IsSpaces before)
      (written : WrittenAs item cs) (hafter : IsSpaces after) :
      ItemsWrittenAs [item] (before ++ (cs ++ after))
  | more {item : Document} {items : List Document} {before cs after rest : List Char}
      (hbefore : IsSpaces before) (written : WrittenAs item cs) (hafter : IsSpaces after)
      (others : ItemsWrittenAs items rest) :
      ItemsWrittenAs (item :: items) (before ++ (cs ++ (after ++ ',' :: rest)))

/-- Fields with blanks around each key and each value and commas between them; there is at least
one. -/
inductive FieldsWrittenAs : List (List Piece × Document) → List Char → Prop
  | one {key : List Piece} {value : Document} {before name colon between cs after : List Char}
      (hbefore : IsSpaces before) (names : PiecesWrittenAs key name) (hcolon : IsSpaces colon)
      (hbetween : IsSpaces between) (written : WrittenAs value cs) (hafter : IsSpaces after) :
      FieldsWrittenAs [(key, value)]
        (before ++ '"' :: (name ++ '"' :: (colon ++ ':' :: (between ++ (cs ++ after)))))
  | more {key : List Piece} {value : Document} {fields : List (List Piece × Document)}
      {before name colon between cs after rest : List Char}
      (hbefore : IsSpaces before) (names : PiecesWrittenAs key name) (hcolon : IsSpaces colon)
      (hbetween : IsSpaces between) (written : WrittenAs value cs) (hafter : IsSpaces after)
      (others : FieldsWrittenAs fields rest) :
      FieldsWrittenAs ((key, value) :: fields)
        (before ++ '"' :: (name ++ '"' :: (colon ++ ':' :: (between ++ (cs ++
          (after ++ ',' :: rest))))))

end

/-! ### Pieces of texts -/

theorem readPieces_quote (rest : List Char) : readPieces ('"' :: rest) = some ([], rest) := by
  rw [readPieces.eq_def]
  rfl

theorem readPieces_plain {c : Char} (quote : c ≠ '"') (backslash : c ≠ '\\')
    (printable : ¬ c.toNat < 0x20) (cs : List Char) :
    readPieces (c :: cs) = (readPieces cs).map fun (pieces, rest) => (.char c :: pieces, rest) := by
  rw [readPieces.eq_def]
  dsimp only
  rw [if_neg quote, if_neg backslash, if_neg printable]

theorem readPieces_letter {letter c : Char} (escape : escape? letter = some c) (cs : List Char) :
    readPieces ('\\' :: letter :: cs) =
      (readPieces cs).map fun (pieces, rest) => (.char c :: pieces, rest) := by
  have hu : letter ≠ 'u' := by
    rintro rfl
    cases escape
  rw [readPieces.eq_def]
  cases hcs : readPieces cs with
  | none => simp [hu, escape, hcs]
  | some p => simp [hu, escape, hcs]

theorem readPieces_unit {a b c d : Char} {n : Nat} (digits : unit? a b c d = some n)
    (cs : List Char) : readPieces ('\\' :: 'u' :: a :: b :: c :: d :: cs) =
      (readPieces cs).map fun (pieces, rest) => (.unit n :: pieces, rest) := by
  rw [readPieces.eq_def]
  cases hcs : readPieces cs with
  | none => simp [digits, hcs]
  | some p => simp [digits, hcs]

/-- Written pieces are read back up to the quote after them. -/
theorem readPieces_append {pieces : List Piece} {cs : List Char}
    (written : PiecesWrittenAs pieces cs) (rest : List Char) :
    readPieces (cs ++ '"' :: rest) = some (pieces, rest) := by
  induction written with
  | nil => exact readPieces_quote rest
  | cons head _ ih =>
    rw [List.append_assoc]
    cases head with
    | plain c quote backslash printable =>
      rw [List.singleton_append, readPieces_plain quote backslash printable, ih, Option.map_some]
    | letter letter c escape =>
      rw [List.cons_append, List.singleton_append, readPieces_letter escape, ih, Option.map_some]
    | unit a b c d n digits =>
      simp only [List.cons_append, List.nil_append]
      rw [readPieces_unit digits, ih, Option.map_some]


/-! ### Blanks -/

theorem skip_append {ws : List Char} (spaces : IsSpaces ws) (cs : List Char) :
    skip (ws ++ cs) = skip cs :=
  List.dropWhile_append_of_pos spaces

theorem skip_cons {c : Char} (h : isSpace c = false) (cs : List Char) : skip (c :: cs) = c :: cs :=
  List.dropWhile_cons_of_neg (by simp [h])

theorem skip_skip (cs : List Char) : skip (skip cs) = skip cs :=
  List.dropWhile_idempotent _ cs

theorem read_skip (fuel : Nat) (cs : List Char) : read fuel (skip cs) = read fuel cs := by
  cases fuel with
  | zero => rw [read, read]
  | succ fuel =>
    rw [read.eq_def, read.eq_def (fuel + 1) cs]
    dsimp only
    rw [skip_skip]

theorem readItems_skip (fuel : Nat) (cs : List Char) :
    readItems fuel (skip cs) = readItems fuel cs := by
  cases fuel with
  | zero => rw [readItems, readItems]
  | succ fuel => rw [readItems, readItems, read_skip]

theorem readFields_skip (fuel : Nat) (cs : List Char) :
    readFields fuel (skip cs) = readFields fuel cs := by
  cases fuel with
  | zero => rw [readFields, readFields]
  | succ fuel =>
    rw [readFields.eq_def, readFields.eq_def (fuel + 1) cs]
    dsimp only
    rw [skip_skip]

/-! ### Reading documents back -/

theorem read_array {c : Char} {cs tail : List Char} (fuel : Nat) (h : skip cs = c :: tail)
    (hc : c ≠ ']') : read (fuel + 1) ('[' :: cs) =
      (readItems fuel cs).map fun (items, rest) => (.array items, rest) := by
  have hopen : skip ('[' :: cs) = '[' :: cs := skip_cons rfl cs
  rw [← readItems_skip, read.eq_def]
  simp only [hopen, h]
  split
  · next heq => exact absurd (List.cons.inj heq).1 hc
  · rfl

theorem read_object {c : Char} {cs tail : List Char} (fuel : Nat) (h : skip cs = c :: tail)
    (hc : c ≠ '}') : read (fuel + 1) ('{' :: cs) =
      (readFields fuel cs).map fun (fields, rest) => (.object fields, rest) := by
  have hopen : skip ('{' :: cs) = '{' :: cs := skip_cons rfl cs
  rw [← readFields_skip, read.eq_def]
  simp only [hopen, h]
  split
  · next heq => exact absurd (List.cons.inj heq).1 hc
  · rfl

theorem isSpace_of_numeral {c : Char} (hc : c = '-' ∨ c.isDigit = true) : isSpace c = false := by
  have hne := fun d => Numeral.ne_of_head (d := d) hc
  simp [isSpace, hne]

theorem read_number {n : Numeral} {cs rest : List Char} (fuel : Nat) (written : n.WrittenAs cs)
    (stops : Numeral.Stops rest) : read (fuel + 1) (cs ++ rest) = some (.number n, rest) := by
  have hread := Numeral.read_append written stops
  obtain ⟨c, tail, rfl, hc⟩ := written.head
  rw [List.cons_append] at hread ⊢
  rw [read.eq_def]
  dsimp only
  rw [skip_cons (isSpace_of_numeral hc)]
  have hne : ∀ d : Char, d.isDigit = false → d ≠ '-' → ∀ cs, c :: (tail ++ rest) ≠ d :: cs :=
    fun d hdigit hminus cs heq => Numeral.ne_of_head hc hdigit hminus (List.cons.inj heq).1
  split
  · next heq => exact absurd heq (hne _ rfl (by decide) _)
  · next heq => exact absurd heq (hne _ rfl (by decide) _)
  · next heq => exact absurd heq (hne _ rfl (by decide) _)
  · rw [readScalar]
    · rw [hread, Option.map_some]
    · exact hne _ rfl (by decide)
    · exact hne _ rfl (by decide)
    · exact hne _ rfl (by decide)

theorem read_null (fuel : Nat) (rest : List Char) :
    read (fuel + 1) ("null".toList ++ rest) = some (.null, rest) := rfl

theorem read_bool (fuel : Nat) (value : Bool) (rest : List Char) :
    read (fuel + 1) ((if value then "true".toList else "false".toList) ++ rest) =
      some (.bool value, rest) := by
  cases value <;> rfl

theorem read_text (fuel : Nat) (cs : List Char) : read (fuel + 1) ('"' :: cs) =
    (readPieces cs).map fun (pieces, rest) => (.text pieces, rest) := rfl

theorem WrittenAs.head {doc : Document} {cs : List Char} (written : WrittenAs doc cs) :
    ∃ c tail, cs = c :: tail ∧ isSpace c = false ∧ c ≠ ']' := by
  cases written with
  | null => exact ⟨_, _, rfl, rfl, by decide⟩
  | bool value =>
    cases value with
    | true => exact ⟨_, _, rfl, rfl, by decide⟩
    | false => exact ⟨_, _, rfl, rfl, by decide⟩
  | number written =>
    obtain ⟨c, tail, rfl, hc⟩ := written.head
    exact ⟨c, tail, rfl, isSpace_of_numeral hc, Numeral.ne_of_head hc rfl (by decide)⟩
  | text | emptyArray | array | emptyObject | object => exact ⟨_, _, rfl, rfl, by decide⟩

theorem ItemsWrittenAs.head {items : List Document} {cs : List Char}
    (written : ItemsWrittenAs items cs) (rest : List Char) :
    ∃ c tail, skip (cs ++ rest) = c :: tail ∧ c ≠ ']' := by
  cases written with
  | one hbefore written | more hbefore written =>
    obtain ⟨c, tail, rfl, hspace, hc⟩ := written.head
    rw [List.append_assoc, skip_append hbefore, List.cons_append, List.cons_append,
      skip_cons hspace]
    exact ⟨c, _, rfl, hc⟩

theorem FieldsWrittenAs.head {fields : List (List Piece × Document)} {cs : List Char}
    (written : FieldsWrittenAs fields cs) (rest : List Char) :
    ∃ tail, skip (cs ++ rest) = '"' :: tail := by
  cases written with
  | one hbefore | more hbefore =>
    rw [List.append_assoc, skip_append hbefore, List.cons_append, skip_cons rfl]
    exact ⟨_, rfl⟩

/-- A numeral cannot go on past blanks, nor into what closes or separates values. -/
theorem stops_append {ws rest : List Char} (spaces : IsSpaces ws)
    (stops : Numeral.Stops rest) : Numeral.Stops (ws ++ rest) := by
  cases ws with
  | nil => exact stops
  | cons c ws =>
    rintro _ ⟨⟩
    have hc := spaces c List.mem_cons_self
    simp only [isSpace, Bool.or_eq_true, decide_eq_true_eq] at hc
    rcases hc with ((rfl | rfl) | rfl) | rfl <;> decide

theorem stops_cons {c : Char} (hc : c ∈ [',', ']', '}']) (rest : List Char) :
    Numeral.Stops (c :: rest) := by
  rintro _ ⟨⟩
  rw [List.mem_cons, List.mem_cons, List.mem_singleton] at hc
  rcases hc with rfl | rfl | rfl <;> decide

theorem read_emptyArray {ws : List Char} (fuel : Nat) (spaces : IsSpaces ws) (rest : List Char) :
    read (fuel + 1) ('[' :: (ws ++ ']' :: rest)) = some (.array [], rest) := by
  have hopen : skip ('[' :: (ws ++ ']' :: rest)) = '[' :: (ws ++ ']' :: rest) :=
    skip_cons rfl _
  have hclose : skip (ws ++ ']' :: rest) = ']' :: rest := by
    rw [skip_append spaces, skip_cons rfl]
  rw [read.eq_def]
  simp only [hopen, hclose]

theorem read_emptyObject {ws : List Char} (fuel : Nat) (spaces : IsSpaces ws)
    (rest : List Char) :
    read (fuel + 1) ('{' :: (ws ++ '}' :: rest)) = some (.object [], rest) := by
  have hopen : skip ('{' :: (ws ++ '}' :: rest)) = '{' :: (ws ++ '}' :: rest) :=
    skip_cons rfl _
  have hclose : skip (ws ++ '}' :: rest) = '}' :: rest := by
    rw [skip_append spaces, skip_cons rfl]
  rw [read.eq_def]
  simp only [hopen, hclose]

theorem readItems_last {cs ws rest : List Char} {item : Document} {fuel : Nat}
    (h : read fuel cs = some (item, ws ++ ']' :: rest)) (spaces : IsSpaces ws) :
    readItems (fuel + 1) cs = some ([item], rest) := by
  rw [readItems, h, Option.bind_eq_bind, Option.bind_some]
  dsimp only
  rw [skip_append spaces, skip_cons rfl]
  rfl

theorem readItems_more {cs ws rest : List Char} {item : Document} {fuel : Nat}
    (h : read fuel cs = some (item, ws ++ ',' :: rest)) (spaces : IsSpaces ws) :
    readItems (fuel + 1) cs =
      (readItems fuel rest).map fun (items, rest) => (item :: items, rest) := by
  rw [readItems, h, Option.bind_eq_bind, Option.bind_some, Option.map_eq_bind]
  dsimp only
  rw [skip_append spaces, skip_cons rfl]
  rfl

/-- A field up to its value. -/
theorem readFields_key {before name colon : List Char} {key : List Piece} (fuel : Nat)
    (hbefore : IsSpaces before) (names : PiecesWrittenAs key name) (hcolon : IsSpaces colon)
    (rest : List Char) :
    readFields (fuel + 1) (before ++ '"' :: (name ++ '"' :: (colon ++ ':' :: rest))) =
      (read fuel rest).bind fun (value, rest) =>
        match skip rest with
        | '}' :: rest => some ([(key, value)], rest)
        | ',' :: rest =>
          (readFields fuel rest).map fun (fields, rest) => ((key, value) :: fields, rest)
        | _ => none := by
  rw [readFields, skip_append hbefore, skip_cons rfl]
  show ((readPieces (name ++ '"' :: (colon ++ ':' :: rest))).bind _) = _
  rw [readPieces_append names, Option.bind_some]
  dsimp only
  rw [skip_append hcolon, skip_cons rfl]
  simp only [Option.map_eq_bind]
  rfl

theorem readFields_last {before name colon ws cs rest : List Char} {key : List Piece}
    {value : Document} {fuel : Nat} (hbefore : IsSpaces before) (names : PiecesWrittenAs key name)
    (hcolon : IsSpaces colon) (h : read fuel cs = some (value, ws ++ '}' :: rest))
    (spaces : IsSpaces ws) :
    readFields (fuel + 1) (before ++ '"' :: (name ++ '"' :: (colon ++ ':' :: cs))) =
      some ([(key, value)], rest) := by
  rw [readFields_key fuel hbefore names hcolon, h, Option.bind_some]
  dsimp only
  rw [skip_append spaces, skip_cons rfl]
  rfl

theorem readFields_more {before name colon ws cs rest : List Char} {key : List Piece}
    {value : Document} {fuel : Nat} (hbefore : IsSpaces before) (names : PiecesWrittenAs key name)
    (hcolon : IsSpaces colon) (h : read fuel cs = some (value, ws ++ ',' :: rest))
    (spaces : IsSpaces ws) :
    readFields (fuel + 1) (before ++ '"' :: (name ++ '"' :: (colon ++ ':' :: cs))) =
      (readFields fuel rest).map fun (fields, rest) => ((key, value) :: fields, rest) := by
  rw [readFields_key fuel hbefore names hcolon, h, Option.bind_some]
  dsimp only
  rw [skip_append spaces, skip_cons rfl]
  rfl

mutual

/-- A written document is read back, where what follows cannot be taken for more of it. -/
theorem WrittenAs.read {doc : Document} {cs : List Char} (written : WrittenAs doc cs)
    {rest : List Char} (stops : Numeral.Stops rest) {fuel : Nat} (h : 2 * cs.length ≤ fuel) :
    Document.read fuel (cs ++ rest) = some (doc, rest) := by
  -- Each character pays for two steps: into a container, and to its next item or field.
  obtain ⟨fuel, rfl⟩ : ∃ n, fuel = n + 1 := by
    obtain ⟨c, tail, rfl, -⟩ := written.head
    rw [List.length_cons] at h
    exact ⟨fuel - 1, by omega⟩
  cases written with
  | null => exact read_null fuel rest
  | bool value => exact read_bool fuel value rest
  | number written => exact read_number fuel written stops
  | text written =>
    rw [List.cons_append, List.append_assoc, List.singleton_append, read_text,
      readPieces_append written, Option.map_some]
  | emptyArray spaces =>
    rw [List.cons_append, List.append_assoc, List.singleton_append]
    exact read_emptyArray fuel spaces rest
  | array written =>
    obtain ⟨c, tail, hhead, hc⟩ := written.head (']' :: rest)
    rw [List.length_cons, List.length_append, List.length_singleton] at h
    rw [List.cons_append, List.append_assoc, List.singleton_append, read_array fuel hhead hc,
      written.read rest (by omega), Option.map_some]
  | emptyObject spaces =>
    rw [List.cons_append, List.append_assoc, List.singleton_append]
    exact read_emptyObject fuel spaces rest
  | object written =>
    obtain ⟨tail, hhead⟩ := written.head ('}' :: rest)
    rw [List.length_cons, List.length_append, List.length_singleton] at h
    rw [List.cons_append, List.append_assoc, List.singleton_append,
      read_object fuel hhead (by decide), written.read rest (by omega), Option.map_some]

theorem ItemsWrittenAs.read {items : List Document} {cs : List Char}
    (written : ItemsWrittenAs items cs) (rest : List Char) {fuel : Nat}
    (h : 2 * cs.length + 1 ≤ fuel) :
    readItems fuel (cs ++ ']' :: rest) = some (items, rest) := by
  obtain ⟨fuel, rfl⟩ : ∃ n, fuel = n + 1 := ⟨fuel - 1, by omega⟩
  cases written with
  | one hbefore written hafter =>
    simp only [List.length_append] at h
    have hstops := stops_cons (c := ']') (by simp) rest
    have hread := written.read (stops_append hafter hstops) (show 2 * _ ≤ fuel by omega)
    rw [List.append_assoc, List.append_assoc, ← readItems_skip, skip_append hbefore,
      readItems_skip]
    exact readItems_last hread hafter
  | @more _ _ _ _ _ more hbefore written hafter others =>
    simp only [List.length_append, List.length_cons] at h
    have hstops := stops_cons (c := ',') (by simp) (more ++ ']' :: rest)
    have hread := written.read (stops_append hafter hstops) (show 2 * _ ≤ fuel by omega)
    rw [List.append_assoc, List.append_assoc, List.append_assoc, List.cons_append,
      ← readItems_skip, skip_append hbefore, readItems_skip, readItems_more hread hafter,
      others.read rest (by omega), Option.map_some]

theorem FieldsWrittenAs.read {fields : List (List Piece × Document)} {cs : List Char}
    (written : FieldsWrittenAs fields cs) (rest : List Char) {fuel : Nat}
    (h : 2 * cs.length + 1 ≤ fuel) :
    readFields fuel (cs ++ '}' :: rest) = some (fields, rest) := by
  obtain ⟨fuel, rfl⟩ : ∃ n, fuel = n + 1 := ⟨fuel - 1, by omega⟩
  cases written with
  | one hbefore names hcolon hbetween written hafter =>
    simp only [List.length_append, List.length_cons] at h
    have hstops := stops_cons (c := '}') (by simp) rest
    have hread := written.read (stops_append hafter hstops) (show 2 * _ ≤ fuel by omega)
    rw [← read_skip, ← skip_append hbetween, read_skip] at hread
    simp only [List.append_assoc, List.cons_append]
    exact readFields_last hbefore names hcolon hread hafter
  | @more _ _ _ _ _ _ _ _ _ more hbefore names hcolon hbetween written hafter others =>
    simp only [List.length_append, List.length_cons] at h
    have hstops := stops_cons (c := ',') (by simp) (more ++ '}' :: rest)
    have hread := written.read (stops_append hafter hstops) (show 2 * _ ≤ fuel by omega)
    rw [← read_skip, ← skip_append hbetween, read_skip] at hread
    simp only [List.append_assoc, List.cons_append]
    rw [readFields_more hbefore names hcolon hread hafter, others.read rest (by omega),
      Option.map_some]

end

/-- A written document with blanks around it fills a text. -/
theorem WrittenAs.parseChars?_eq {doc : Document} {before cs after : List Char}
    (hbefore : IsSpaces before) (written : WrittenAs doc cs) (hafter : IsSpaces after) :
    parseChars? (before ++ (cs ++ after)) = some doc := by
  have hstops : Numeral.Stops (after ++ []) := stops_append hafter (by rintro c ⟨⟩)
  rw [List.append_nil] at hstops
  rw [parseChars?, ← read_skip, skip_append hbefore, read_skip, written.read hstops]
  · have hrest : skip after = [] := List.dropWhile_eq_nil_iff.mpr hafter
    dsimp only
    rw [hrest]
    rfl
  · simp only [List.length_append]
    omega

end Document

/-! ### Values -/

/-- A text writes a value: it is a document that keeps to the value, with blanks around it. -/
inductive Json.WrittenAs (value : Json) (text : String) : Prop
  | intro (doc : Document) (before cs after : List Char) (hbefore : Document.IsSpaces before)
      (written : doc.WrittenAs cs) (hafter : Document.IsSpaces after)
      (kept : doc.keep? = some value) (shape : text.toList = before ++ (cs ++ after))

/-- **Every text that writes a value is read as that value.** -/
theorem Json.WrittenAs.parse?_eq {value : Json} {text : String} (h : value.WrittenAs text) :
    Json.parse? text = some value := by
  obtain ⟨doc, before, cs, after, hbefore, written, hafter, kept, shape⟩ := h
  rw [Json.parse?, Document.parse?, shape, written.parseChars?_eq hbefore hafter,
    Option.bind_some, kept]

end GatewayProbe

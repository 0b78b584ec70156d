/-
Texts that quote others.

A diagnostic is put together of wordings of its own and of texts that came from elsewhere. The
wordings hold no line break, and neither do numbers, JSON values and the values of headers, however
they were sent. So a line break in a diagnostic is one of a text that it quotes.

* `OneLine` — a text without line breaks;
* `oneLine_compact`, `oneLine_fixed`, `Headers.oneLine_value?` — texts that are always one line;
* `Quotes` — a text put together of one-line texts and of quoted ones;
* `Quotes.oneLine` — where all that may be quoted is one-line, the whole is.
-/
import Mathlib.Data.List.DropRight
import GatewayProbe.Delivery.Basic
import GatewayProbe.Exchange.Head
import GatewayProbe.Json.Printer

namespace GatewayProbe

/-- A text without line breaks. -/
def OneLine (s : String) : Prop := '\n' ∉ s.toList

instance (s : String) : Decidable (OneLine s) := inferInstanceAs (Decidable ('\n' ∉ s.toList))

@[simp] theorem oneLine_append {s t : String} : OneLine (s ++ t) ↔ OneLine s ∧ OneLine t := by
  rw [OneLine, OneLine, OneLine, String.toList_append, List.mem_append, not_or]

@[simp] theorem oneLine_ofList {cs : List Char} : OneLine (String.ofList cs) ↔ '\n' ∉ cs := by
  rw [OneLine, String.toList_ofList]

/-! ### Numbers -/

namespace Decimal

@[simp] theorem newline_not_mem_digits (n : Nat) : '\n' ∉ digits n := fun h =>
  absurd (Nat.isDigit_of_mem_toDigits (by decide) (by decide) h) (by decide)

theorem newline_not_mem_padded (size n : Nat) : '\n' ∉ padded size n := by
  simp [padded, List.mem_replicate]

theorem newline_not_mem_placed (places units : Nat) : '\n' ∉ placed places units := by
  rw [placed]
  split
  · exact newline_not_mem_digits _
  · simp [newline_not_mem_padded]

theorem oneLine_fixed (places : Nat) (x : Float) : OneLine (fixed places x) := by
  rw [fixed]
  split
  · decide
  · split <;> decide
  · refine oneLine_ofList.mpr ?_
    split <;> simp [newline_not_mem_placed]

theorem newline_not_mem_scientific (n : Nat) (power : Int) : '\n' ∉ scientific n power := by
  have htake (k : Nat) : '\n' ∉ (digits n).take k :=
    fun h => newline_not_mem_digits n (List.mem_of_mem_take h)
  have hdrop (k : Nat) : '\n' ∉ (digits n).drop k :=
    fun h => newline_not_mem_digits n (List.mem_of_mem_drop h)
  have htail : '\n' ∉ (digits n).tail := List.drop_one ▸ hdrop 1
  rw [scientific]
  dsimp only
  split
  · simp [List.mem_replicate]
  · split
    · simp [htake, hdrop]
    · split
      · simp [List.mem_replicate]
      · split <;> split <;> simp [htake, htail]

theorem oneLine_shortest (x : Float) : OneLine (shortest x) := by
  rw [shortest]
  split
  · decide
  · split <;> decide
  · refine oneLine_ofList.mpr ?_
    split <;> split <;> simp [newline_not_mem_scientific]

end Decimal

@[simp] theorem oneLine_repr (n : Nat) : OneLine n.repr :=
  oneLine_ofList.mpr (Decimal.newline_not_mem_digits n)

theorem oneLine_int (n : Int) : OneLine (toString n) := by
  cases n with
  | ofNat n => exact oneLine_repr n
  | negSucc n => exact oneLine_append.mpr ⟨by decide, oneLine_repr _⟩

theorem oneLine_status (status : Nat) : OneLine s!"HTTP {status}" :=
  oneLine_append.mpr ⟨by decide, oneLine_repr status⟩

namespace Delivery

theorem oneLine_time (x : Float) : OneLine (time x) :=
  oneLine_append.mpr ⟨Decimal.oneLine_fixed 3 x, by decide⟩

theorem oneLine_shownTime (x : Option Float) : OneLine ((x.map time).getD "-") := by
  cases x with
  | none => decide
  | some x => exact oneLine_time x

theorem oneLine_text (v : Delivery) : OneLine v.text := by
  have hform : OneLine v.form.name := by cases v.form <;> decide
  simp only [text, oneLine_append]
  exact ⟨⟨⟨⟨⟨⟨⟨⟨⟨hform, by decide⟩, oneLine_repr _⟩, by decide⟩, oneLine_shownTime _⟩, by decide⟩,
    oneLine_time _⟩, by decide⟩, oneLine_time _⟩, by decide⟩

end Delivery

/-! ### JSON values -/

namespace Json

theorem hexDigit_ne_newline : ∀ n < 16, hexDigit n ≠ '\n' := by decide

/-- A line break in a text is written as an escape. -/
theorem newline_not_mem_quotedChar (c : Char) : '\n' ∉ quotedChar c := by
  rw [quotedChar.eq_def]
  split
  all_goals try decide
  next _ _ _ _ hnewline _ _ =>
    -- A line feed has a letter of its own, so what is left is another character, as it is or by its
    -- number.
    split
    · next hcontrol =>
      have hhigh := hexDigit_ne_newline (c.toNat / 16) (by omega)
      have hlow := hexDigit_ne_newline (c.toNat % 16) (by omega)
      simp [Ne.symm hhigh, Ne.symm hlow]
    · exact fun h => hnewline (List.mem_singleton.mp h).symm

@[simp] theorem newline_not_mem_quoted (s : String) : '\n' ∉ quoted s := by
  simp [quoted, newline_not_mem_quotedChar]

theorem newline_not_mem_chars (n : Number) : '\n' ∉ n.chars := by
  cases n with
  | whole n =>
    rw [Number.chars]
    split <;> simp
  | double x =>
    rw [Number.chars]
    split
    · exact Decimal.oneLine_shortest x
    · decide

mutual

theorem newline_not_mem_compactChars (value : Json) : '\n' ∉ value.compactChars := by
  match value with
  | .null => decide
  | .bool value => cases value <;> decide
  | .number n => exact newline_not_mem_chars n
  | .text s => exact newline_not_mem_quoted s
  | .array items => simp [compactChars, newline_not_mem_compactItems items]
  | .object fields => simp [compactChars, newline_not_mem_compactFields fields]

theorem newline_not_mem_compactItems (items : List Json) : '\n' ∉ compactItems items := by
  match items with
  | [] => decide
  | [item] => exact newline_not_mem_compactChars item
  | item :: next :: rest =>
    simp [compactItems, newline_not_mem_compactChars item,
      newline_not_mem_compactItems (next :: rest)]

theorem newline_not_mem_compactFields (fields : List (String × Json)) :
    '\n' ∉ compactFields fields := by
  match fields with
  | [] => decide
  | [(key, value)] => simp [compactFields, newline_not_mem_compactChars value]
  | (key, value) :: next :: rest =>
    simp [compactFields, newline_not_mem_compactChars value,
      newline_not_mem_compactFields (next :: rest)]

end

theorem oneLine_compact (value : Json) : OneLine value.compact :=
  oneLine_ofList.mpr (newline_not_mem_compactChars value)

end Json

/-! ### Headers -/

theorem Text.mem_of_mem_trimChars {c : Char} {cs : List Char} (h : c ∈ trimChars cs) : c ∈ cs :=
  (List.dropWhile_sublist _).subset ((List.rdropWhile_prefix _ _).subset h)

theorem Text.oneLine_trim {s : String} (h : OneLine s) : OneLine (trim s) :=
  oneLine_ofList.mpr fun hmem => h (mem_of_mem_trimChars hmem)

theorem Headers.not_newline_of_isVisible {b : UInt8} (h : isVisible b = true) :
    Char.ofNat b.toNat ≠ '\n' := by
  have hsmall : ∀ n < 0x7F, n = 9 ∨ 0x20 ≤ n → Char.ofNat n ≠ '\n' := by decide
  simp only [isVisible, Bool.or_eq_true, Bool.and_eq_true, decide_eq_true_eq] at h
  rcases h with rfl | ⟨hlow, hhigh⟩
  · decide
  · exact hsmall _ (by omega) (.inr hlow)

/-- The value of a header that counts holds no line break. -/
theorem Headers.oneLine_value? {headers : Headers} {name s : String}
    (h : headers.value? name = some s) : OneLine s := by
  obtain ⟨text, htext, htrim⟩ := Option.bind_eq_some_iff.mp h
  obtain ⟨bytes, -, hbytes⟩ := Option.bind_eq_some_iff.mp htext
  split at hbytes
  · next hvisible =>
    cases hbytes
    rw [Text.nonBlank?] at htrim
    split at htrim
    · cases htrim
    · cases htrim
      refine Text.oneLine_trim (oneLine_ofList.mpr fun hmem => ?_)
      obtain ⟨b, hb, hchar⟩ := List.mem_map.mp hmem
      exact not_newline_of_isVisible (List.all_eq_true.mp hvisible b hb) hchar
  · cases hbytes

/-! ### Quoting -/

/-- The text is put together of one-line texts and of texts of a kind. -/
inductive Quotes (T : String → Prop) : String → Prop
  | plain {s : String} (h : OneLine s) : Quotes T s
  | quoted {s : String} (h : T s) : Quotes T s
  | append {s t : String} (hs : Quotes T s) (ht : Quotes T t) : Quotes T (s ++ t)

namespace Quotes

variable {T : String → Prop}

/-- Where all that may be quoted is one-line, the whole is. -/
theorem oneLine {s : String} (h : Quotes T s) (hT : ∀ t, T t → OneLine t) : OneLine s := by
  induction h with
  | plain h => exact h
  | quoted h => exact hT _ h
  | append _ _ hs ht => exact oneLine_append.mpr ⟨hs, ht⟩

theorem mono {U : String → Prop} {s : String} (h : Quotes T s) (hU : ∀ t, T t → U t) :
    Quotes U s := by
  induction h with
  | plain h => exact .plain h
  | quoted h => exact .quoted (hU _ h)
  | append _ _ hs ht => exact .append hs ht

theorem intercalate {sep : String} (hsep : OneLine sep) {parts : List String}
    (h : ∀ s ∈ parts, Quotes T s) : Quotes T (sep.intercalate parts) := by
  match parts with
  | [] => exact String.intercalate_nil ▸ .plain (by decide)
  | [s] => exact String.intercalate_singleton ▸ h s (List.mem_singleton_self s)
  | s :: next :: rest =>
    obtain ⟨hs, hrest⟩ := List.forall_mem_cons.mp h
    rw [String.intercalate_cons_cons]
    exact .append (.append hs (.plain hsep)) (intercalate hsep hrest)

end Quotes
end GatewayProbe

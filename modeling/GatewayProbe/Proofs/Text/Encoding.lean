/-
Bytes as text.

Bytes are read as a text where they are the UTF-8 of one, and then of that text alone:

* `toUtf8_eq` — the bytes of a text, as the list they are kept in;
* `utf8?_eq_some_iff`, `utf8?_eq_none` — what bytes are read as, and when they are no text.
-/
import GatewayProbe.Text.Bytes

namespace GatewayProbe.Text

theorem toList_loop (bytes : ByteArray) (i : Nat) (read : List UInt8) :
    ByteArray.toList.loop bytes i read = read.reverse ++ bytes.data.toList.drop i := by
  fun_induction ByteArray.toList.loop bytes i read with
  | case1 i read h ih =>
    have hi : i < bytes.data.toList.length := h
    have hget : bytes.get! i = bytes.data.toList[i] := getElem!_pos bytes.data i h
    rw [ih, List.reverse_cons, List.append_assoc, List.singleton_append, hget,
      List.getElem_cons_drop]
  | case2 i read h =>
    have hi : bytes.data.toList.length ≤ i := Nat.le_of_not_lt h
    rw [List.drop_eq_nil_of_le hi, List.append_nil]

theorem toUtf8_eq (s : String) : toUtf8 s = s.toByteArray.data.toList := by
  rw [toUtf8, ByteArray.toList, toList_loop, List.reverse_nil, List.nil_append, List.drop_zero]
  rfl

/-- Bytes are read as the text that is written by them, and as no other. -/
theorem utf8?_eq_some_iff {bytes : List UInt8} {s : String} :
    utf8? bytes = some s ↔ bytes = toUtf8 s := by
  rw [toUtf8_eq, utf8?, String.fromUTF8?]
  constructor
  · intro h
    split at h
    · cases h
      rfl
    · cases h
  · rintro rfl
    rw [dif_pos s.isValidUTF8]
    rfl

theorem utf8?_toUtf8 (s : String) : utf8? (toUtf8 s) = some s := utf8?_eq_some_iff.mpr rfl

theorem utf8?_eq_none {bytes : List UInt8} (h : ∀ s, bytes ≠ toUtf8 s) : utf8? bytes = none := by
  rw [Option.eq_none_iff_forall_ne_some]
  intro s hs
  exact h s (utf8?_eq_some_iff.mp hs)

end GatewayProbe.Text

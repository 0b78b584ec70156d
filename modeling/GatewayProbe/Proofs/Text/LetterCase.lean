/-
The case of letters, said of single letters.

Texts are compared by making their ASCII capitals small. Said without that, two texts are the same
up to case when they are so letter by letter: equal, or one the ASCII capital of the other. A letter
outside ASCII is the same as itself only, and what results is an equivalence of all texts.

* `IsCapitalOf`, `SameLetter`, `SameWord` — capitals, and sameness up to case;
* `eqIgnoreCase_iff_sameWord` — this is what the comparison finds;
* `sameWord_equivalence` — it is an equivalence;
* `SameWord.trim_eq_empty_iff` — a text is blank in every case or in none.
-/
import Mathlib.Data.List.Forall2
import GatewayProbe.Proofs.Text.Trimming
import GatewayProbe.Text.Ascii

namespace GatewayProbe.Text

/-- An ASCII capital and its small letter. -/
structure IsCapitalOf (capital small : Char) : Prop where
  first : 'A'.toNat ≤ capital.toNat
  last : capital.toNat ≤ 'Z'.toNat
  small_eq : small.toNat = capital.toNat + 32

/-- Two characters are the same up to the case of ASCII letters. -/
inductive SameLetter (c d : Char) : Prop
  | same (h : c = d)
  | capital (h : IsCapitalOf d c)
  | small (h : IsCapitalOf c d)

/-- Two texts are the same up to the case of ASCII letters. -/
def SameWord (s t : String) : Prop := List.Forall₂ SameLetter s.toList t.toList

theorem toNat_toLower (c : Char) : c.toLower.toNat =
    if 'A'.toNat ≤ c.toNat ∧ c.toNat ≤ 'Z'.toNat then c.toNat + 32 else c.toNat := by
  unfold Char.toLower
  split
  · next h =>
    have hrange : 'A'.toNat ≤ c.toNat ∧ c.toNat ≤ 'Z'.toNat := ⟨h.1, h.2⟩
    rw [if_pos hrange]
    show (c.val + 32).toNat = c.toNat + 32
    have hlast : c.val.toNat ≤ 90 := h.2
    rw [UInt32.toNat_add, show (32 : UInt32).toNat = 32 from rfl]
    exact Nat.mod_eq_of_lt (by omega)
  · next h =>
    rw [if_neg fun hrange => h ⟨hrange.1, hrange.2⟩]

/-- Two characters become the same small letter exactly where they are the same up to case. -/
theorem toLower_eq_iff {c d : Char} : c.toLower = d.toLower ↔ SameLetter c d := by
  rw [← Char.toNat_inj, toNat_toLower, toNat_toLower]
  constructor
  · intro h
    split at h <;> split at h
    · exact .same (Char.toNat_inj.mp (by omega))
    · next hc _ => exact .small ⟨hc.1, hc.2, h.symm⟩
    · next hd => exact .capital ⟨hd.1, hd.2, h⟩
    · exact .same (Char.toNat_inj.mp h)
  · have hbelow : 'Z'.toNat < 'A'.toNat + 32 := by decide
    rintro (rfl | ⟨hfirst, hlast, heq⟩ | ⟨hfirst, hlast, heq⟩)
    · rfl
    · rw [if_neg (by omega), if_pos ⟨hfirst, hlast⟩, heq]
    · rw [if_pos ⟨hfirst, hlast⟩, if_neg (by omega), heq]

theorem eqIgnoreCase_iff {s t : String} :
    eqIgnoreCase s t = true ↔ s.toList.map Char.toLower = t.toList.map Char.toLower := by
  rw [eqIgnoreCase, beq_iff_eq, lowerAscii, lowerAscii]
  exact String.ofList_inj

/-- The comparison finds texts that are the same letter by letter, up to case. -/
theorem eqIgnoreCase_iff_sameWord {s t : String} : eqIgnoreCase s t = true ↔ SameWord s t := by
  rw [eqIgnoreCase_iff, SameWord, ← List.forall₂_eq_eq_eq, List.forall₂_map_left_iff,
    List.forall₂_map_right_iff]
  simp only [toLower_eq_iff]

theorem sameWord_iff {s t : String} : SameWord s t ↔ lowerAscii s = lowerAscii t := by
  rw [← eqIgnoreCase_iff_sameWord, eqIgnoreCase, beq_iff_eq]

/-- Sameness up to case is an equivalence of all texts, those with other letters included. -/
theorem sameWord_equivalence : Equivalence SameWord where
  refl _ := sameWord_iff.mpr rfl
  symm h := sameWord_iff.mpr (sameWord_iff.mp h).symm
  trans h h' := sameWord_iff.mpr ((sameWord_iff.mp h).trans (sameWord_iff.mp h'))

theorem SameLetter.isBlank_eq {c d : Char} (h : SameLetter c d) : isBlank c = isBlank d := by
  -- The ranges of blanks hold no ASCII letter.
  have hletter (x : Char) (hfirst : 'A'.toNat ≤ x.toNat) (hlast : x.toNat ≤ 'Z'.toNat + 32) :
      isBlank x = false := by
    have hfirst : 65 ≤ x.toNat := hfirst
    have hlast : x.toNat ≤ 122 := hlast
    simp [isBlank, inRanges, blankRanges]
    omega
  cases h with
  | same h => rw [h]
  | capital h =>
    obtain ⟨hfirst, hlast, heq⟩ := h
    rw [hletter c (by omega) (by omega), hletter d hfirst (by omega)]
  | small h =>
    obtain ⟨hfirst, hlast, heq⟩ := h
    rw [hletter c hfirst (by omega), hletter d (by omega) (by omega)]

theorem trim_eq_empty_iff {s : String} : trim s = "" ↔ isBlankText s = true := by
  rw [trim, isBlankText, List.all_eq_true, ← trimChars_eq_nil_iff]
  exact String.ofList_eq_empty_iff

/-- Nothing is left of a text after trimming in every case of its letters, or in none. -/
theorem SameWord.trim_eq_empty_iff {s t : String} (h : SameWord s t) :
    trim s = "" ↔ trim t = "" := by
  have hall : s.toList.all isBlank = t.toList.all isBlank := by
    rw [SameWord] at h
    generalize s.toList = cs at h
    generalize t.toList = ds at h
    induction h with
    | nil => rfl
    | cons hletter _ ih => rw [List.all_cons, List.all_cons, hletter.isBlank_eq, ih]
  rw [Text.trim_eq_empty_iff, Text.trim_eq_empty_iff, isBlankText, isBlankText, hall]

end GatewayProbe.Text

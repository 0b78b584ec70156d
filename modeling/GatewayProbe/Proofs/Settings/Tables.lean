/-
Which tables of backend types are accepted, and that these leave no doubt.

The mode of a type is looked up in one table first and then in the other. Tables that are accepted
have no type in both, so the order of the lookup decides nothing, and nor does the way in which a
table is written: the order of its entries, how often one stands there, the case of its letters.

* `ModeTables.Matches` — a table has an entry that is a type up to case;
* `ModeTables.check_eq_ok_iff` — accepted tables have no blank type and none that both match;
* `ModeTables.modeOf_exchanged_iff` — the lookup is symmetric exactly where no type is matched by
  both tables;
* `Relisted`, `Relisted.matches_iff` — a table written in another way matches the same types;
* `tables_unambiguous` — all of this together.
-/
import GatewayProbe.Proofs.Text.LetterCase
import GatewayProbe.Settings.ModeTables

namespace GatewayProbe

open Text (SameWord)

/-- The mode expected where the two tables change places. -/
def Mode.exchanged : Mode → Mode
  | .passthrough => .translated
  | .translated => .passthrough
  | .untested => .untested

namespace ModeTables

/-- An entry of a table is the type, up to the case of ASCII letters. -/
def Matches (types : List String) (type : String) : Prop := ∃ listed ∈ types, SameWord listed type

/-- The two tables in each other's place. -/
def exchanged (tables : ModeTables) : ModeTables := ⟨tables.translated, tables.passthrough⟩

variable {tables : ModeTables} {types others : List String} {type : String}

theorem lists_iff : lists types type = true ↔ Matches types type := by
  rw [lists, List.any_eq_true]
  exact exists_congr fun listed => and_congr_right fun _ => Text.eqIgnoreCase_iff_sameWord

instance : Decidable (Matches types type) := decidable_of_iff _ lists_iff

/-! ### What is accepted -/

/-- The types that are found in both tables are none exactly where no type at all is matched by
both: a type that is, is matched by an entry of the first table, which the second matches too. -/
theorem overlap_eq_nil_iff : tables.overlap = [] ↔
    ¬∃ type, Matches tables.passthrough type ∧ Matches tables.translated type := by
  rw [overlap, List.filter_eq_nil_iff]
  constructor
  · rintro hnone ⟨type, ⟨first, hfirst, hsame⟩, second, hsecond, hsame'⟩
    refine hnone first hfirst (lists_iff.mpr ⟨second, hsecond, ?_⟩)
    exact Text.sameWord_equivalence.trans hsame' (Text.sameWord_equivalence.symm hsame)
  · intro hnone first hfirst hlisted
    exact hnone ⟨first, ⟨first, hfirst, Text.sameWord_equivalence.refl first⟩, lists_iff.mp hlisted⟩

theorem findIdx?_isBlankText_eq_none_iff :
    types.findIdx? Text.isBlankText = none ↔ ∀ type ∈ types, Text.trim type ≠ "" := by
  rw [List.findIdx?_eq_none_iff]
  refine forall₂_congr fun type _ => ?_
  rw [Ne, Text.trim_eq_empty_iff, Bool.not_eq_true]

/-- Accepted are the tables without a blank type and without a type that both match. -/
theorem check_eq_ok_iff : tables.check = .ok () ↔
    (∀ type ∈ tables.passthrough, Text.trim type ≠ "") ∧
    (∀ type ∈ tables.translated, Text.trim type ≠ "") ∧
    ¬∃ type, Matches tables.passthrough type ∧ Matches tables.translated type := by
  rw [check, ← findIdx?_isBlankText_eq_none_iff, ← findIdx?_isBlankText_eq_none_iff,
    ← overlap_eq_nil_iff]
  cases tables.passthrough.findIdx? Text.isBlankText with
  | some i => simp
  | none => cases tables.translated.findIdx? Text.isBlankText with
    | some i => simp
    | none => simp [List.isEmpty_iff]

/-! ### What the lookup finds -/

theorem modeOf_eq (tables : ModeTables) (type : String) : tables.modeOf type =
    if Matches tables.passthrough type then .passthrough
    else if Matches tables.translated type then .translated
    else .untested := by
  simp only [modeOf, lists_iff]

theorem modeOf_eq_passthrough_iff :
    tables.modeOf type = .passthrough ↔ Matches tables.passthrough type := by
  rw [modeOf_eq]
  split_ifs with hfirst hsecond <;> simp [hfirst]

/-- A type of the second table is found there unless the first one has it. -/
theorem modeOf_eq_translated_iff : tables.modeOf type = .translated ↔
    ¬Matches tables.passthrough type ∧ Matches tables.translated type := by
  rw [modeOf_eq]
  split_ifs with hfirst hsecond
  · simp [hfirst]
  · simp [hfirst, hsecond]
  · simp [hsecond]

/-- Tables that change places exchange the modes of a type, unless both match it. -/
theorem modeOf_exchanged_iff :
    tables.exchanged.modeOf type = (tables.modeOf type).exchanged ↔
      ¬(Matches tables.passthrough type ∧ Matches tables.translated type) := by
  rw [modeOf_eq, modeOf_eq]
  show (if Matches tables.translated type then Mode.passthrough
    else if Matches tables.passthrough type then Mode.translated else Mode.untested) = _ ↔ _
  -- The lookup tries one table before the other, which only a type of both can tell.
  by_cases hfirst : Matches tables.passthrough type <;>
    by_cases hsecond : Matches tables.translated type <;>
    simp [hfirst, hsecond, Mode.exchanged]

/-- The mode of a type depends on the types that the tables match. -/
theorem modeOf_congr {other : ModeTables}
    (passthrough : Matches other.passthrough type ↔ Matches tables.passthrough type)
    (translated : Matches other.translated type ↔ Matches tables.translated type) :
    other.modeOf type = tables.modeOf type := by
  simp only [modeOf_eq, passthrough, translated]

/-! ### Tables written in another way -/

/-- A table written in another way: entries in another order, one of them once more, or in letters
of another case, and so on in steps of these kinds forth and back. -/
inductive Relisted : List String → List String → Prop
  | reordered {types others : List String} (perm : types.Perm others) : Relisted types others
  | repeated {type : String} {types : List String} (listed : type ∈ types) :
      Relisted types (type :: types)
  | recased {type other : String} {types : List String} (same : SameWord type other) :
      Relisted (type :: types) (other :: types)
  | symm {types others : List String} (step : Relisted types others) : Relisted others types
  | trans {types others third : List String} (first : Relisted types others)
      (second : Relisted others third) : Relisted types third

namespace Relisted

/-- It matches the same types. -/
theorem matches_iff (h : Relisted types others) (type : String) :
    Matches others type ↔ Matches types type := by
  induction h with
  | reordered perm => exact exists_congr fun listed => and_congr_left fun _ => perm.mem_iff.symm
  | @repeated first types listed =>
    refine ⟨fun ⟨entry, hentry, hsame⟩ => ?_, fun ⟨entry, hentry, hsame⟩ => ?_⟩
    · rcases List.mem_cons.mp hentry with rfl | hentry
      · exact ⟨entry, listed, hsame⟩
      · exact ⟨entry, hentry, hsame⟩
    · exact ⟨entry, List.mem_cons_of_mem first hentry, hsame⟩
  | @recased first other types same =>
    have hequiv := Text.sameWord_equivalence
    have hhead : SameWord other type ↔ SameWord first type :=
      ⟨fun h => hequiv.trans same h, fun h => hequiv.trans (hequiv.symm same) h⟩
    simp only [Matches, List.exists_mem_cons_iff, hhead]
  | symm _ ih => exact ih.symm
  | trans _ _ ih ih' => exact ih'.trans ih

/-- Blank entries are in both or in none. -/
theorem forall_filled_iff (h : Relisted types others) :
    (∀ type ∈ others, Text.trim type ≠ "") ↔ ∀ type ∈ types, Text.trim type ≠ "" := by
  induction h with
  | reordered perm => exact forall_congr' fun type => imp_congr_left perm.mem_iff.symm
  | repeated listed =>
    exact List.forall_mem_cons.trans ⟨And.right, fun hall => ⟨hall _ listed, hall⟩⟩
  | recased same =>
    rw [List.forall_mem_cons, List.forall_mem_cons, Ne, ← same.trim_eq_empty_iff]
  | symm _ ih => exact ih.symm
  | trans _ _ ih ih' => exact ih'.trans ih

end Relisted

/-- **Tables leave no doubt.** Accepted are exactly the tables without a blank type and without a
type that entries of both match up to case. Then the mode of every type is that of the one table
that matches it. Tables in each other's place exchange the modes, and tables written in another way
are accepted too and have the same modes. The condition is needed: if tables in each other's place
exchange the modes of all types, then no type is matched by both. -/
theorem tables_unambiguous (tables : ModeTables) :
    (tables.check = .ok () ↔
      (∀ type ∈ tables.passthrough ++ tables.translated, Text.trim type ≠ "") ∧
      ¬∃ type, Matches tables.passthrough type ∧ Matches tables.translated type) ∧
    (tables.check = .ok () → ∀ type,
      (tables.modeOf type = .passthrough ↔ Matches tables.passthrough type) ∧
      (tables.modeOf type = .translated ↔ Matches tables.translated type) ∧
      tables.exchanged.modeOf type = (tables.modeOf type).exchanged ∧
      ∀ passthrough translated : List String, Relisted tables.passthrough passthrough →
        Relisted tables.translated translated →
        (ModeTables.mk passthrough translated).check = .ok () ∧
        (ModeTables.mk passthrough translated).modeOf type = tables.modeOf type) ∧
    ((∀ type, tables.exchanged.modeOf type = (tables.modeOf type).exchanged) →
      ¬∃ type, Matches tables.passthrough type ∧ Matches tables.translated type) := by
  refine ⟨?_, fun h type => ?_, fun hsymmetric => ?_⟩
  · rw [check_eq_ok_iff, List.forall_mem_append, and_assoc]
  · obtain ⟨hfirst, hsecond, hapart⟩ := check_eq_ok_iff.mp h
    have hnot := not_exists.mp hapart type
    refine ⟨modeOf_eq_passthrough_iff, ?_, modeOf_exchanged_iff.mpr hnot,
      fun passthrough translated hpassthrough htranslated => ⟨?_, ?_⟩⟩
    · rw [modeOf_eq_translated_iff]
      exact and_iff_right_of_imp fun hmatches hother => hnot ⟨hother, hmatches⟩
    · refine check_eq_ok_iff.mpr ⟨hpassthrough.forall_filled_iff.mpr hfirst,
        htranslated.forall_filled_iff.mpr hsecond, ?_⟩
      simp only [hpassthrough.matches_iff, htranslated.matches_iff]
      exact hapart
    · exact modeOf_congr (hpassthrough.matches_iff type) (htranslated.matches_iff type)
  · rintro ⟨type, hboth⟩
    exact modeOf_exchanged_iff.mp (hsymmetric type) hboth

/-- Tables whose types differ in the case of a letter outside ASCII. -/
def accented : ModeTables := ⟨["Ollama", "\u00c9"], ["\u00e9", "litellm"]⟩

/-- The tables in another order, with an entry twice and other letters. -/
theorem tables_unambiguous_accented :
    accented.check = .ok () ∧
    Relisted accented.passthrough ["\u00c9", "OLLAMA", "\u00c9"] ∧
    (ModeTables.mk ["\u00c9", "OLLAMA", "\u00c9"] accented.translated).modeOf "\u00e9" =
      .translated ∧
    accented.exchanged.modeOf "ollamA" = .translated := by
  have hcheck : accented.check = .ok () := by decide
  have hrelisted : Relisted accented.passthrough ["\u00c9", "OLLAMA", "\u00c9"] := by
    have hcase : SameWord "Ollama" "OLLAMA" := Text.sameWord_iff.mpr (by decide)
    have hmore : Relisted ["OLLAMA", "\u00c9"] ["\u00c9", "OLLAMA", "\u00c9"] :=
      .repeated (by decide)
    exact .trans (.recased hcase) hmore
  have haccented := (tables_unambiguous accented).2.1 hcheck
  obtain ⟨-, -, -, hwritten⟩ := haccented "\u00e9"
  obtain ⟨-, -, hexchanged, -⟩ := haccented "ollamA"
  refine ⟨hcheck, hrelisted, ?_, ?_⟩
  · rw [(hwritten _ accented.translated hrelisted (.reordered (.refl _))).2]
    decide
  · rw [hexchanged]
    decide

end ModeTables
end GatewayProbe

/-
The model of a run that needs only one.

Ids are put in order and freed of repetitions, models for embeddings are left out where there are
others, and the model is looked up or chosen among what is left. All of that comes to a rule about
the ids that are listed:

* `Eligible` — the ids that may be used, `ascending_candidateIds` their list;
* `IsDefault` — the id that is used where none is asked for;
* `chosenModel_congr` — nothing but the ids that are listed counts;
* `chosenModel_none_eq_ok_iff`, `chosenModel_some_eq_ok_iff` — what is chosen, and when;
* `chosenModel_iff` — all of it.
-/
import GatewayProbe.Proofs.Text.Ascending
import GatewayProbe.Run.Basic

namespace GatewayProbe

/-- A run may use the id: it is listed, and it can chat or nothing that is listed can. -/
def Eligible (models : List Model) (id : String) : Prop :=
  id ∈ models.map Model.id ∧ (isEmbeddingId id = true → ∀ m ∈ models, m.embeds = true)

/-- A run uses the id where none is asked for: it is the most preferred that may be used, or the
least of all where no preferred one may be. -/
inductive IsDefault (models : List Model) (id : String) : Prop
  | favourite (before after : List String) (preferred : favourites = before ++ id :: after)
      (eligible : Eligible models id) (first : ∀ other ∈ before, ¬Eligible models other)
  | least (plain : ∀ other ∈ favourites, ¬Eligible models other) (eligible : Eligible models id)
      (least : ∀ other, Eligible models other → id ≤ other)

variable {models others : List Model} {id : String}

/-! ### What may be used -/

theorem mem_generative_iff :
    id ∈ (models.filter fun m => !m.embeds).map Model.id ↔
      id ∈ models.map Model.id ∧ isEmbeddingId id = false := by
  simp only [List.mem_map, List.mem_filter, Bool.not_eq_true']
  constructor
  · rintro ⟨m, ⟨hm, hchat⟩, rfl⟩
    exact ⟨⟨m, hm, rfl⟩, hchat⟩
  · rintro ⟨⟨m, hm, rfl⟩, hchat⟩
    exact ⟨m, ⟨hm, hchat⟩, rfl⟩

/-- The candidates are the ids that may be used. -/
theorem ascending_candidateIds (models : List Model) :
    Ascending (candidateIds models) (Eligible models) := by
  refine ascending_ordered fun id => ?_
  -- Either all ids are left, because no model can chat, or those of the models that can.
  by_cases hnone : (models.filter fun m => !m.embeds).isEmpty = true
  · have hall : ∀ m ∈ models, m.embeds = true := by
      simpa using List.isEmpty_iff.mp hnone
    rw [if_pos hnone]
    exact ⟨fun hid => ⟨hid, fun _ => hall⟩, And.left⟩
  · obtain ⟨m, hm, hchat⟩ : ∃ m ∈ models, m.embeds = false := by
      simpa [List.isEmpty_iff] using hnone
    rw [if_neg hnone, mem_generative_iff, Eligible]
    refine and_congr_right fun _ => ⟨fun hid hembeds => ?_, fun hall => ?_⟩
    · exact absurd (hid.symm.trans hembeds) Bool.false_ne_true
    · refine Bool.eq_false_iff.mpr fun hembeds => ?_
      exact absurd (hchat.symm.trans (hall hembeds m hm)) Bool.false_ne_true

theorem contains_candidateIds : (candidateIds models).contains id = true ↔ Eligible models id :=
  List.contains_iff_mem.trans ((ascending_candidateIds models).2 id)

/-- Where a model is listed, some id may be used. -/
theorem exists_eligible (h : models ≠ []) : ∃ id, Eligible models id := by
  by_cases hall : ∀ m ∈ models, m.embeds = true
  · obtain ⟨m, rest, rfl⟩ := List.exists_cons_of_ne_nil h
    exact ⟨m.id, List.mem_map_of_mem List.mem_cons_self, fun _ => hall⟩
  · push Not at hall
    obtain ⟨m, hm, hchat⟩ := hall
    exact ⟨m.id, List.mem_map_of_mem hm, fun hembeds => absurd hembeds hchat⟩

theorem Eligible.ne_nil (h : Eligible models id) : models ≠ [] := by
  rintro rfl
  exact List.not_mem_nil h.1

/-! ### Other lists of the same ids -/

section Same

variable (same : ∀ id, id ∈ others.map Model.id ↔ id ∈ models.map Model.id)
include same

theorem eligible_congr : Eligible others = Eligible models := by
  have hembeds (list : List Model) :
      (∀ m ∈ list, m.embeds = true) ↔ ∀ id ∈ list.map Model.id, isEmbeddingId id = true := by
    rw [List.forall_mem_map]
    rfl
  funext id
  simp only [Eligible, hembeds, same]

theorem isEmpty_congr : others.isEmpty = models.isEmpty := by
  have hempty (list : List Model) : list.isEmpty = true ↔ ∀ id, id ∉ list.map Model.id := by
    rw [List.isEmpty_iff, ← List.eq_nil_iff_forall_not_mem, List.map_eq_nil_iff]
  rw [Bool.eq_iff_iff, hempty, hempty]
  simp only [same]

/-- Only the ids that are listed count, not their order, their number or anything else. -/
theorem chosenModel_congr (requested : Option String) :
    chosenModel others requested = chosenModel models requested := by
  have hids : candidateIds others = candidateIds models := by
    have hothers := ascending_candidateIds others
    rw [eligible_congr same] at hothers
    exact hothers.eq (ascending_candidateIds models)
  rw [chosenModel, chosenModel, isEmpty_congr same, hids]

end Same

/-! ### What is chosen -/

/-- The model that is chosen where none is asked for, if there is one. -/
def defaultModel? (models : List Model) : Option String :=
  favourites.find? (candidateIds models).contains <|> (candidateIds models).head?

theorem favourite_eq_some_iff :
    favourites.find? (candidateIds models).contains = some id ↔
      ∃ before after, favourites = before ++ id :: after ∧ Eligible models id ∧
        ∀ other ∈ before, ¬Eligible models other := by
  simp only [List.find?_eq_some_iff_append, Bool.not_eq_true', ← Bool.not_eq_true,
    contains_candidateIds]
  constructor
  · rintro ⟨eligible, before, after, preferred, first⟩
    exact ⟨before, after, preferred, eligible, first⟩
  · rintro ⟨before, after, preferred, eligible, first⟩
    exact ⟨eligible, before, after, preferred, first⟩

theorem defaultModel?_eq_some_iff : defaultModel? models = some id ↔ IsDefault models id := by
  rw [defaultModel?]
  cases hfavourite : favourites.find? (candidateIds models).contains with
  | none =>
    have plain : ∀ other ∈ favourites, ¬Eligible models other := fun other hother =>
      mt contains_candidateIds.mpr (List.find?_eq_none.mp hfavourite other hother)
    show (candidateIds models).head? = some id ↔ _
    rw [(ascending_candidateIds models).head?_eq_some_iff]
    constructor
    · exact fun ⟨eligible, least⟩ => .least plain eligible least
    · rintro (⟨before, after, preferred, eligible, -⟩ | ⟨-, eligible, least⟩)
      · exact absurd eligible (plain id (by simp [preferred]))
      · exact ⟨eligible, least⟩
  | some best =>
    obtain ⟨before, after, preferred, eligible, first⟩ := favourite_eq_some_iff.mp hfavourite
    show some best = some id ↔ _
    constructor
    · rintro ⟨⟩
      exact .favourite before after preferred eligible first
    · rintro (⟨before, after, preferred', eligible', first'⟩ | ⟨plain, -, -⟩)
      · have hid := favourite_eq_some_iff.mpr ⟨before, after, preferred', eligible', first'⟩
        exact hfavourite.symm.trans hid
      · exact absurd eligible (plain best (by simp [preferred]))

theorem IsDefault.eligible {models : List Model} {id : String} (h : IsDefault models id) :
    Eligible models id := by
  cases h with
  | favourite _ _ _ eligible => exact eligible
  | least _ eligible => exact eligible

/-- Where a model is listed, one is chosen. -/
theorem exists_default (h : models ≠ []) : ∃ id, IsDefault models id := by
  obtain ⟨id, eligible⟩ := exists_eligible h
  have hcandidates : (candidateIds models).head? ≠ none := fun hnone => by
    have hmem := ((ascending_candidateIds models).2 id).mpr eligible
    rw [List.head?_eq_none_iff.mp hnone] at hmem
    exact List.not_mem_nil hmem
  obtain ⟨first, hfirst⟩ := Option.ne_none_iff_exists'.mp hcandidates
  simp only [← defaultModel?_eq_some_iff, defaultModel?, hfirst]
  cases favourites.find? (candidateIds models).contains with
  | none => exact ⟨first, rfl⟩
  | some best => exact ⟨best, rfl⟩

theorem chosenModel_of_default (h : IsDefault models id) : chosenModel models none = .ok id := by
  have hfound : (favourites.find? (candidateIds models).contains <|> (candidateIds models).head?) =
      some id := defaultModel?_eq_some_iff.mpr h
  rw [chosenModel, if_neg (mt List.isEmpty_iff.mp h.eligible.ne_nil)]
  dsimp only
  rw [hfound]

theorem chosenModel_none_eq_ok_iff : chosenModel models none = .ok id ↔ IsDefault models id := by
  refine ⟨fun h => ?_, chosenModel_of_default⟩
  by_cases hnone : models = []
  · rw [hnone] at h
    cases h
  · obtain ⟨other, hother⟩ := exists_default hnone
    rw [chosenModel_of_default hother] at h
    exact Except.ok.inj h ▸ hother

theorem chosenModel_none_eq_error_iff {e : GatewayError} : chosenModel models none = .error e ↔
    models = [] ∧ e = .discovery "no models available" := by
  by_cases hnone : models = []
  · rw [hnone, and_iff_right rfl]
    exact ⟨fun h => (Except.error.inj h).symm, fun h => h ▸ rfl⟩
  · obtain ⟨id, hid⟩ := exists_default hnone
    rw [chosenModel_of_default hid]
    exact iff_of_false (fun h => nomatch h) fun h => hnone h.1

/-! ### What is refused -/

/-- What is told where the model that is asked for may not be used. -/
def refusal (models : List Model) (requested : String) : GatewayError :=
  .discovery (if models.isEmpty then "no models available"
    else "model '" ++ requested ++ "' not found in available models")

theorem chosenModel_some (models : List Model) (requested : String) :
    chosenModel models (some requested) =
      if (candidateIds models).contains requested then .ok requested
      else .error (refusal models requested) := by
  rw [chosenModel, refusal]
  by_cases hnone : models = []
  · rw [hnone]
    rfl
  · rw [if_neg (mt List.isEmpty_iff.mp hnone), if_neg (mt List.isEmpty_iff.mp hnone)]

theorem chosenModel_some_eq_ok_iff {requested : String} :
    chosenModel models (some requested) = .ok id ↔ id = requested ∧ Eligible models requested := by
  rw [chosenModel_some, ← contains_candidateIds]
  split
  · next h => exact ⟨fun hid => ⟨(Except.ok.inj hid).symm, h⟩, fun hid => hid.1 ▸ rfl⟩
  · next h => exact iff_of_false (fun hid => nomatch hid) fun hid => h hid.2

theorem chosenModel_some_eq_error_iff {requested : String} {e : GatewayError} :
    chosenModel models (some requested) = .error e ↔
      ¬Eligible models requested ∧ e = refusal models requested := by
  rw [chosenModel_some, ← contains_candidateIds]
  split
  · next h => exact iff_of_false (fun he => nomatch he) fun he => he.1 h
  · next h => exact ⟨fun he => ⟨h, (Except.error.inj he).symm⟩, fun he => he.2 ▸ rfl⟩

/-- **The model of a run with one.** Only the ids that are listed count. Where none is asked for,
there is no model exactly if none is listed; otherwise it is the most preferred that may be used, or
the least of all that may be used where no preferred one is among them. It is one for embeddings
only if all that are listed are. A model that is asked for is used if it may be, and is refused
otherwise. -/
theorem chosenModel_iff (models : List Model) :
    (∀ others : List Model, (∀ id, id ∈ others.map Model.id ↔ id ∈ models.map Model.id) →
      ∀ requested, chosenModel others requested = chosenModel models requested) ∧
    (∀ e, chosenModel models none = .error e ↔
      models = [] ∧ e = .discovery "no models available") ∧
    (∀ id, chosenModel models none = .ok id ↔ IsDefault models id) ∧
    (∀ id, chosenModel models none = .ok id → isEmbeddingId id = true →
      ∀ m ∈ models, m.embeds = true) ∧
    (∀ requested id, chosenModel models (some requested) = .ok id ↔
      id = requested ∧ Eligible models requested) ∧
    ∀ requested e, chosenModel models (some requested) = .error e ↔
      ¬Eligible models requested ∧ e = .discovery (if models.isEmpty then "no models available"
        else "model '" ++ requested ++ "' not found in available models") := by
  refine ⟨fun others same requested => chosenModel_congr same requested,
    fun e => chosenModel_none_eq_error_iff, fun id => chosenModel_none_eq_ok_iff, fun id h => ?_,
    fun requested id => chosenModel_some_eq_ok_iff,
    fun requested e => chosenModel_some_eq_error_iff⟩
  exact (chosenModel_none_eq_ok_iff.mp h).eligible.2

/-- Models without a preferred one, one of them for embeddings. -/
def plainModels : List Model := [{ id := "qwen2.5" }, { id := "embed-m" }, { id := "gemma2" }]

/-- The least id is that of the model for embeddings, which is passed over and refused. -/
theorem chosenModel_iff_plain :
    chosenModel (plainModels.reverse ++ plainModels) none = chosenModel plainModels none ∧
    IsDefault plainModels "gemma2" ∧ ¬Eligible plainModels "embed-m" ∧
    chosenModel plainModels (some "embed-m") =
      .error (.discovery "model 'embed-m' not found in available models") := by
  obtain ⟨hsame, -, hdefault, -, -, hrefused⟩ := chosenModel_iff plainModels
  have hrepeated (id : String) : id ∈ (plainModels.reverse ++ plainModels).map Model.id ↔
      id ∈ plainModels.map Model.id := by
    rw [List.map_append, List.map_reverse, List.mem_append, List.mem_reverse, or_self]
  have hnone : ¬Eligible plainModels "embed-m" := fun h =>
    absurd (h.2 (by decide) { id := "gemma2" } (by decide)) (by decide)
  exact ⟨hsame _ hrepeated none, (hdefault _).mp (by decide +kernel), hnone,
    (hrefused _ _).mpr ⟨hnone, rfl⟩⟩

end GatewayProbe

/-
The model that represents a backend.

A plan names one of its models to test with. It is drawn, or the first one is taken, from the models
that were bound precisely; only where there are none may it be one that was bound through a type
hint. The plans here are those of any endpoints, whether their names are distinct or not.

* `Plan.precise`, `Plan.eligible` — the models to choose from, in terms of the plan alone, and
  `eligible_make`;
* `Plan.Represented`, `represented_of_pick` — what holds of a plan however its model is chosen;
* `prefix_bonds_append` — models that are listed later add bonds at the end;
* `Plan.GrowsTo`, `planFrom_growsTo` — what more bonds at the end make of a plan;
* `assign_represented` — the whole account.
-/
import GatewayProbe.Proofs.Plan.Agreement
import GatewayProbe.Proofs.Plan.Draws

namespace GatewayProbe

variable {endpoints : List Endpoint} {models : List Model} {modes : ModeTables}
  {includeEmpty : Bool}

/-! ### The models to choose from -/

namespace Plan

/-- The models of a plan that were not bound through a type hint. -/
def precise (p : Plan) : List String := p.models.filter fun id => !p.approximate.contains id

/-- The models that may represent a plan. -/
def eligible (p : Plan) : List String := if p.precise.isEmpty then p.models else p.precise

theorem mem_precise {p : Plan} {id : String} :
    id ∈ p.precise ↔ id ∈ p.models ∧ id ∉ p.approximate := by
  rw [precise, List.mem_filter, Bool.not_eq_true', ← Bool.not_eq_true, List.contains_iff_mem]

theorem eligible_of_precise {p : Plan} {id : String} (h : id ∈ p.precise) :
    p.eligible = p.precise := by
  rw [eligible, if_neg]
  rw [List.isEmpty_iff]
  exact List.ne_nil_of_mem h

theorem mem_models_of_eligible {p : Plan} {id : String} (h : id ∈ p.eligible) : id ∈ p.models := by
  rw [eligible] at h
  split at h
  · exact h
  · exact (mem_precise.mp h).1

theorem eligible_eq_nil_iff {p : Plan} : p.eligible = [] ↔ p.models = [] := by
  rw [eligible]
  split
  · exact Iff.rfl
  · next hprecise =>
    rw [List.isEmpty_iff] at hprecise
    refine iff_of_false hprecise fun hmodels => hprecise ?_
    rw [precise, hmodels, List.filter_nil]

/-- The first that may represent a plan: the first that is precise, or else the first of all. -/
theorem head?_eligible (p : Plan) :
    p.eligible.head? = (p.models.find? fun id => !p.approximate.contains id).or p.models.head? := by
  rw [← List.head?_filter, ← precise, eligible]
  cases p.precise <;> rfl

end Plan

/-- Where ids are distinct, an id is one of a guess where its own bond is. -/
theorem mem_guesses_iff {own : List Bond} (once : (own.map Bond.model).Nodup) {b : Bond}
    (hb : b ∈ own) :
    b.model ∈ (own.filter (·.source.isGuess)).map Bond.model ↔ b.source.isGuess = true := by
  constructor
  · intro h
    obtain ⟨c, hc, hmodel⟩ := List.mem_map.mp h
    obtain ⟨hc, hguess⟩ := List.mem_filter.mp hc
    rwa [← List.inj_on_of_nodup_map once hc hb hmodel]
  · exact fun hguess => List.mem_map_of_mem (List.mem_filter.mpr ⟨hb, hguess⟩)

/-- The candidates for a plan are the models that may represent it. -/
theorem eligible_make {own : List Bond} (once : (own.map Bond.model).Nodup)
    (selection : Selection) (e : Endpoint) :
    (Plan.make modes selection e own).1.eligible = candidates own := by
  have hprecise : (Plan.make modes selection e own).1.precise =
      (own.filter fun b => !b.source.isGuess).map Bond.model := by
    rw [Plan.precise, Plan.make]
    dsimp only
    rw [List.filter_map]
    refine congrArg (List.map Bond.model) (List.filter_congr fun b hb => ?_)
    rw [Function.comp_apply, Bool.not_inj_iff, Bool.eq_iff_iff, List.contains_iff_mem]
    exact mem_guesses_iff once hb
  rw [Plan.eligible, hprecise, candidates, List.isEmpty_map]
  split <;> rfl

/-! ### The model that is chosen -/

/-- A model represents the plan exactly where it has one. It is one of the plan, and a precise one
where there is any; so it is a guess exactly where there are models and all of them are. -/
structure Plan.Represented (p : Plan) : Prop where
  none_iff : p.selected = none ↔ p.models = []
  listed : ∀ id ∈ p.selected, id ∈ p.models
  precise : (∃ id ∈ p.models, id ∉ p.approximate) → ∀ id ∈ p.selected, id ∉ p.approximate
  guessed_iff : p.isGuessed = true ↔ p.models ≠ [] ∧ ∀ id ∈ p.models, id ∈ p.approximate

/-- Whatever is picked of the models that may represent a plan represents it. -/
theorem Plan.represented_of_pick {p : Plan} {selection : Selection}
    (h : p.selected = (selection.pick? p.eligible).1) : p.Represented := by
  have hnone : p.selected = none ↔ p.models = [] := by
    rw [h, Selection.pick?_eq_none_iff, eligible_eq_nil_iff]
  have heligible : ∀ id ∈ p.selected, id ∈ p.eligible := fun id hid =>
    Selection.mem_of_pick? (h ▸ hid)
  have hlisted : ∀ id ∈ p.selected, id ∈ p.models := fun id hid =>
    mem_models_of_eligible (heligible id hid)
  have hprecise : (∃ id ∈ p.models, id ∉ p.approximate) →
      ∀ id ∈ p.selected, id ∉ p.approximate := by
    rintro ⟨other, hother, hexact⟩ id hid
    have hmem := heligible id hid
    rw [eligible_of_precise (mem_precise.mpr ⟨hother, hexact⟩)] at hmem
    exact (mem_precise.mp hmem).2
  refine ⟨hnone, hlisted, hprecise, ?_⟩
  rw [isGuessed, Option.any_eq_true]
  constructor
  · rintro ⟨id, hid, hguess⟩
    rw [List.contains_iff_mem] at hguess
    refine ⟨fun hempty => ?_, fun other hother => ?_⟩
    · rw [hnone.mpr hempty] at hid
      cases hid
    · by_contra hexact
      exact hprecise ⟨other, hother, hexact⟩ id hid hguess
  · rintro ⟨hmodels, hall⟩
    obtain ⟨id, hid⟩ := Option.ne_none_iff_exists'.mp (mt hnone.mp hmodels)
    exact ⟨id, hid, List.contains_iff_mem.mpr (hall id (hlisted id hid))⟩

theorem represented_make {own : List Bond} (once : (own.map Bond.model).Nodup)
    (selection : Selection) (e : Endpoint) : (Plan.make modes selection e own).1.Represented := by
  have hselected : (Plan.make modes selection e own).1.selected =
      (selection.pick? (Plan.make modes selection e own).1.eligible).1 := by
    rw [eligible_make once]
    rfl
  exact Plan.represented_of_pick hselected

/-! ### Models that are listed later -/

theorem prefix_foldl_addBond (offered acc : List Bond) :
    acc <+: offered.foldl (addBond endpoints) acc := by
  induction offered generalizing acc with
  | nil => exact List.prefix_refl acc
  | cons b offered ih =>
    have hstep : acc <+: addBond endpoints acc b := by
      rw [addBond]
      split
      · exact List.prefix_append acc [b]
      · exact List.prefix_refl acc
    exact hstep.trans (ih _)

/-- Models that are listed later add bonds at the end. -/
theorem prefix_bonds_append (models more : List Model) :
    bonds endpoints models <+: bonds endpoints (models ++ more) := by
  rw [bonds, bonds, List.filter_append, List.flatMap_append, List.foldl_append]
  exact prefix_foldl_addBond _ _

/-- Where a bond is precise, bonds at the end do not change the first candidate. -/
theorem head?_candidates_of_prefix {own own' : List Bond} (h : own <+: own') {b : Bond}
    (hb : b ∈ own) (hprecise : b.source.isGuess = false) :
    (candidates own').head? = (candidates own).head? := by
  have hmem : b ∈ own.filter fun b => !b.source.isGuess :=
    List.mem_filter.mpr ⟨hb, by rw [hprecise, Bool.not_false]⟩
  obtain ⟨after, hafter⟩ := h.filter fun b => !b.source.isGuess
  have hhead : (own'.filter fun b => !b.source.isGuess).head? =
      (own.filter fun b => !b.source.isGuess).head? := by
    rw [← hafter, List.head?_append_of_ne_nil _ (List.ne_nil_of_mem hmem)]
  have hmem' : b ∈ own'.filter fun b => !b.source.isGuess :=
    hafter ▸ List.mem_append_left after hmem
  have hsome {bonds : List Bond} (hbonds : b ∈ bonds) : ¬bonds.isEmpty = true := fun hempty =>
    List.ne_nil_of_mem hbonds (List.isEmpty_iff.mp hempty)
  rw [candidates, candidates, if_neg (hsome hmem'), if_neg (hsome hmem), List.head?_map,
    List.head?_map, hhead]

/-- A plan that has more models than another one at the end. Its representative is another only
where the other one has none, or has one that is a guess. Nothing else differs. -/
structure Plan.GrowsTo (p q : Plan) : Prop where
  same : { q with models := p.models, approximate := p.approximate, selected := p.selected } = p
  models : p.models <+: q.models
  approximate : p.approximate <+: q.approximate
  selected : p.selected = none ∨ p.isGuessed = true ∨ q.selected = p.selected

theorem Plan.GrowsTo.name_eq {p q : Plan} (h : p.GrowsTo q) : q.name = p.name := by
  have hname := congrArg Plan.name h.same
  exact hname

theorem make_growsTo {own own' : List Bond} (h : own <+: own') (e : Endpoint) :
    (Plan.make modes .first e own).1.GrowsTo (Plan.make modes .first e own').1 where
  same := rfl
  models := h.map Bond.model
  approximate := (h.filter _).map Bond.model
  selected := by
    have hselected : (Plan.make modes .first e own).1.selected = (candidates own).head? := rfl
    cases hhead : (candidates own).head? with
    | none => exact .inl (hselected.trans hhead)
    | some id =>
      by_cases hguess : (Plan.make modes .first e own).1.isGuessed = true
      · exact .inr (.inl hguess)
      · -- The representative is no guess, so neither is the bond it is from.
        refine .inr (.inr ?_)
        obtain ⟨b, hb, rfl⟩ := exists_bond_of_mem_candidates (List.mem_of_head? hhead)
        have hprecise : b.source.isGuess = false := by
          rw [← Bool.not_eq_true]
          intro hb'
          refine hguess ?_
          rw [Plan.isGuessed, hselected, hhead, Option.any_some, List.contains_iff_mem]
          exact List.mem_map_of_mem (List.mem_filter.mpr ⟨hb, hb'⟩)
        exact head?_candidates_of_prefix h hb hprecise

/-- More bonds at the end take no plan away, and each plan grows. -/
theorem planFrom_growsTo {bonds bonds' : List Bond} (h : bonds <+: bonds') {rest : List Endpoint}
    {i : Nat} {seen : List String} {p : Plan}
    (hp : p ∈ planFrom modes includeEmpty bonds i seen .first rest) :
    ∃ q ∈ planFrom modes includeEmpty bonds' i seen .first rest, p.GrowsTo q := by
  induction rest generalizing i seen with
  | nil => cases hp
  | cons e rest ih =>
    have hown := h.filter fun b => b.position = i
    have hempty (hnone : bonds'.filter (fun b => b.position = i) = []) :
        bonds.filter (fun b => b.position = i) = [] := List.prefix_nil.mp (hnone ▸ hown)
    rw [planFrom] at hp ⊢
    dsimp only at hp ⊢
    split at hp
    · -- An endpoint without a plan may get one from the bonds that are added.
      obtain ⟨q, hq, hgrow⟩ := ih hp
      split
      · exact ⟨q, hq, hgrow⟩
      · exact ⟨q, List.mem_cons_of_mem _ hq, hgrow⟩
    · next hkeep =>
      rw [if_neg fun hskip => hkeep ?_]
      · rcases List.mem_cons.mp hp with rfl | hp
        · exact ⟨_, List.mem_cons_self, make_growsTo hown e⟩
        · obtain ⟨q, hq, hgrow⟩ := ih hp
          exact ⟨q, List.mem_cons_of_mem _ hq, hgrow⟩
      · rw [Bool.or_eq_true, Bool.and_eq_true, List.isEmpty_iff] at hskip ⊢
        exact hskip.imp_right (And.imp_left hempty)

/-- **The model that represents a backend.** Whether it is drawn or the first one taken, for every
plan it is there where there are models, is one of them, and is precise where any of them is. Where
the first is taken it is the earliest that is precise, or else the earliest of all. Models that are
listed later then add models at the end of a plan and nothing else, and they change its
representative only where there was none or it was a guess. -/
theorem assign_represented (endpoints : List Endpoint) (models : List Model) (modes : ModeTables)
    (options : AssignOptions) :
    (∀ p ∈ (assign endpoints models modes options).backends, p.Represented) ∧
    ∀ (includeEmpty : Bool) (more : List Model),
      let before := assign endpoints models modes ⟨includeEmpty, .first⟩
      let after := assign endpoints (models ++ more) modes ⟨includeEmpty, .first⟩
      (∀ p ∈ before.backends, p.selected =
        (p.models.find? fun id => !p.approximate.contains id).or p.models.head?) ∧
      (∀ p ∈ before.backends, ∃ q ∈ after.backends, p.GrowsTo q) ∧
      ∀ p ∈ before.backends, ∀ q ∈ after.backends, q.name = p.name → p.GrowsTo q := by
  refine ⟨fun p hp => ?_, fun includeEmpty more => ?_⟩
  · obtain ⟨e, -, i, left, rfl, -⟩ := exists_make_of_mem_planFrom hp
    exact represented_make (nodup_models_at i) left e
  · intro before after
    have hgrows : ∀ p ∈ before.backends, ∃ q ∈ after.backends, p.GrowsTo q := fun p hp =>
      planFrom_growsTo (prefix_bonds_append models more) hp
    refine ⟨fun p hp => ?_, hgrows, fun p hp q hq hname => ?_⟩
    · obtain ⟨e, -, i, left, rfl, hleft⟩ := exists_make_of_mem_planFrom hp
      obtain rfl : left = .first := hleft rfl
      rw [← Plan.head?_eligible, eligible_make (nodup_models_at i)]
      rfl
    · -- Names of plans are distinct, so the plan of that name is the one that has grown.
      obtain ⟨q', hq', hgrow⟩ := hgrows p hp
      obtain rfl : q' = q :=
        List.inj_on_of_nodup_map (nodup_backends _ _ _ _) hq' hq (hgrow.name_eq.trans hname.symm)
      exact hgrow

/-- A plan of the first of two endpoints with one address. -/
def twinPlan (models approximate : List String) (selected : String) : Plan where
  name := "a"
  type := "ollama"
  url := some "http://h:1/"
  models := models
  mode := .passthrough
  approximate := approximate
  selected := some selected

/-- A model without references, with a hint to both endpoints. -/
def guessedModel : Model := { id := "g", typeHint := some "OLLAMA" }

/-- A guess represents the endpoint until a precise model is listed after it. -/
theorem assign_represented_twins :
    let before := (assign twinEndpoints [guessedModel] .standard {}).backends
    let after := (assign twinEndpoints ([guessedModel] ++ twinModels) .standard {}).backends
    twinPlan ["g"] ["g"] "g" ∈ before ∧ twinPlan ["g", "m"] ["g"] "m" ∈ after ∧
      (twinPlan ["g"] ["g"] "g").Represented ∧
      (twinPlan ["g"] ["g"] "g").GrowsTo (twinPlan ["g", "m"] ["g"] "m") := by
  intro before after
  have hbefore : twinPlan ["g"] ["g"] "g" ∈ before := by decide +kernel
  have hafter : twinPlan ["g", "m"] ["g"] "m" ∈ after := by decide +kernel
  obtain ⟨represented, stable⟩ := assign_represented twinEndpoints [guessedModel] .standard {}
  exact ⟨hbefore, hafter, represented _ hbefore,
    (stable false twinModels).2.2 _ hbefore _ hafter rfl⟩

end GatewayProbe

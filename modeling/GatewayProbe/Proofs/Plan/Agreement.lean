/-
The three parts of an assignment are one account of the same bonds.

Bindings are written under the names of endpoints and plans under their positions, in two passes
over different lists. Where names are distinct both are views of the bonds, so nothing is lost or
told twice between them:

* `exists_make_of_mem_planFrom`, `nodup_backends` — each plan is made of bonds at one position, and
  no two of them have one name;
* `droppedFrom_eq` — the endpoints left out are those that are down;
* `bindings_filter` — the bindings to an endpoint are the bonds at its position;
* `forall₂_planFrom` — the plans, one for each endpoint that is kept;
* `parts_agree` — the whole account.
-/
import Mathlib.Data.List.Forall2
import GatewayProbe.Proofs.Plan.Bindings

namespace GatewayProbe

variable {endpoints : List Endpoint} {models : List Model} {modes : ModeTables}
  {options : AssignOptions}

/-! ### The plans of a list -/

theorem exists_bond_of_mem_candidates {bonds : List Bond} {id : String}
    (h : id ∈ candidates bonds) : ∃ b ∈ bonds, b.model = id := by
  obtain ⟨b, hb, rfl⟩ := List.mem_map.mp h
  refine ⟨b, ?_, rfl⟩
  split at hb
  · exact hb
  · exact List.mem_of_mem_filter hb

/-- Each plan is made for an endpoint of the bonds at some position, with the draws that were left
by then. Where first candidates are taken there are no draws. -/
theorem exists_make_of_mem_planFrom {includeEmpty : Bool} {bonds : List Bond}
    {rest : List Endpoint} {i : Nat} {seen : List String} {selection : Selection} {p : Plan}
    (h : p ∈ planFrom modes includeEmpty bonds i seen selection rest) :
    ∃ e ∈ rest, ∃ j left, p = (Plan.make modes left e (bonds.filter (·.position = j))).1 ∧
      (selection = .first → left = .first) := by
  induction rest generalizing i seen selection with
  | nil => cases h
  | cons e rest ih =>
    rw [planFrom] at h
    dsimp only at h
    split at h
    · obtain ⟨x, hx, hp⟩ := ih h
      exact ⟨x, List.mem_cons_of_mem _ hx, hp⟩
    · rcases List.mem_cons.mp h with rfl | h
      · exact ⟨e, List.mem_cons_self, i, selection, rfl, id⟩
      · obtain ⟨x, hx, j, left, hp, hleft⟩ := ih h
        refine ⟨x, List.mem_cons_of_mem _ hx, j, left, hp, ?_⟩
        rintro rfl
        exact hleft rfl

/-- Plans have distinct names, none of them seen before. -/
theorem names_planFrom (modes : ModeTables) (includeEmpty : Bool) (bonds : List Bond) (i : Nat)
    (seen : List String) (selection : Selection) (endpoints : List Endpoint) :
    ((planFrom modes includeEmpty bonds i seen selection endpoints).map Plan.name).Nodup ∧
      ∀ name ∈ (planFrom modes includeEmpty bonds i seen selection endpoints).map Plan.name,
        name ∉ seen := by
  -- Each endpoint is seen whether it gets a plan or not, so the names seen only ever grow.
  induction endpoints generalizing i seen selection with
  | nil => exact ⟨List.nodup_nil, by simp [planFrom]⟩
  | cons e rest ih =>
    rw [planFrom]
    split
    · obtain ⟨hnodup, hnew⟩ := ih (i + 1) (e.name :: seen) selection
      exact ⟨hnodup, fun name hname hseen => hnew name hname (List.mem_cons_of_mem _ hseen)⟩
    · next hkeep =>
      have hfirst : e.name ∉ seen := by
        intro hseen
        rw [List.contains_iff_mem.mpr hseen] at hkeep
        exact hkeep rfl
      dsimp only
      generalize hmade : Plan.make modes selection e _ = made
      have hname : made.1.name = e.name := by rw [← hmade]; rfl
      obtain ⟨hnodup, hnew⟩ := ih (i + 1) (e.name :: seen) made.2
      rw [List.map_cons, hname]
      refine ⟨List.nodup_cons.mpr ⟨fun hmem => ?_, hnodup⟩, List.forall_mem_cons.mpr ⟨hfirst, ?_⟩⟩
      · exact hnew _ hmem List.mem_cons_self
      · exact fun name hname hseen => hnew name hname (List.mem_cons_of_mem _ hseen)

/-- No two plans have one name, whatever the endpoints are called. -/
theorem nodup_backends (endpoints : List Endpoint) (models : List Model) (modes : ModeTables)
    (options : AssignOptions) :
    ((assign endpoints models modes options).backends.map Plan.name).Nodup :=
  (names_planFrom modes _ _ 0 [] _ endpoints).1

/-! ### Walking through endpoints of distinct names -/

theorem not_seen {name : String} {names seen : List String}
    (distinct : (name :: names ++ seen).Nodup) : seen.contains name = false := by
  have hname : name ∉ names ++ seen := (List.nodup_cons.mp distinct).1
  simpa using fun hseen => hname (List.mem_append_right _ hseen)

theorem droppedFrom_eq {rest : List Endpoint} {seen : List String}
    (distinct : (rest.map Endpoint.name ++ seen).Nodup) :
    droppedFrom seen rest = (rest.filter fun e => !e.isUp).map Endpoint.name := by
  induction rest generalizing seen with
  | nil => rfl
  | cons e rest ih =>
    rw [droppedFrom, not_seen distinct, Bool.false_or, ih (List.nodup_middle.mpr distinct)]
    cases hup : e.isUp <;> simp [hup]

theorem isEmpty_filter {α : Type} (p : α → Bool) (xs : List α) :
    (xs.filter p).isEmpty = !xs.any p := by
  rw [Bool.eq_iff_iff]
  simp

/-- The plans follow the endpoints that are kept, in their order. Whatever relates an endpoint to
the plan made of the bonds at its position, for every way to choose, relates the two lists. -/
theorem forall₂_planFrom {R : Endpoint → Plan → Prop} {keep : Endpoint → Bool} {bonds : List Bond}
    {includeEmpty : Bool} {rest : List Endpoint} {i : Nat} {seen : List String}
    {selection : Selection} (distinct : (rest.map Endpoint.name ++ seen).Nodup)
    (kept : ∀ j e, rest[j]? = some e →
      keep e = (e.isUp && (includeEmpty || bonds.any fun b => b.position = i + j)))
    (made : ∀ j e selection, rest[j]? = some e →
      R e (Plan.make modes selection e (bonds.filter fun b => b.position = i + j)).1) :
    List.Forall₂ R (rest.filter keep)
      (planFrom modes includeEmpty bonds i seen selection rest) := by
  -- The position, the names seen and the state of the draws all move on with each endpoint.
  induction rest generalizing i seen selection with
  | nil => exact .nil
  | cons e rest ih =>
    have hrest : ∀ selection, List.Forall₂ R (rest.filter keep)
        (planFrom modes includeEmpty bonds (i + 1) (e.name :: seen) selection rest) := by
      intro selection
      refine ih (List.nodup_middle.mpr distinct) (fun j x hx => ?_) (fun j x selection hx => ?_)
      · rw [kept (j + 1) x hx, Nat.add_right_comm, Nat.add_assoc]
      · rw [Nat.add_right_comm, Nat.add_assoc]
        exact made (j + 1) x selection hx
    have hskip : (!e.isUp || (bonds.filter fun b => b.position = i).isEmpty && !includeEmpty) =
        !keep e := by
      rw [kept 0 e rfl, isEmpty_filter, Nat.add_zero]
      cases e.isUp <;> cases includeEmpty <;> simp
    rw [planFrom, not_seen distinct, Bool.false_or, hskip]
    cases hkeep : keep e with
    | false =>
      rw [List.filter_cons_of_neg (by simp [hkeep])]
      exact hrest selection
    | true =>
      rw [List.filter_cons_of_pos hkeep]
      exact .cons (made 0 e selection rfl) (hrest _)

/-! ### Bindings and bonds -/

/-- The bindings to an endpoint are the bonds at its position. -/
theorem bindings_filter (distinct : (endpoints.map Endpoint.name).Nodup) {i : Nat} {e : Endpoint}
    (hi : endpoints[i]? = some e) (bonds : List Bond) :
    ((bonds.filterMap (Bond.named? endpoints)).filter fun b => b.endpoint = e.name) =
      (bonds.filter fun b => b.position = i).map fun b => ⟨e.name, b.model, b.source⟩ := by
  induction bonds with
  | nil => rfl
  | cons b bonds ih =>
    -- A bond at another position has another name, for names are distinct.
    by_cases hb : b.position = i
    · have hnamed : b.named? endpoints = some ⟨e.name, b.model, b.source⟩ := by
        rw [Bond.named?, hb, hi, Option.map_some]
      rw [List.filterMap_cons_some hnamed, List.filter_cons_of_pos (by simp),
        List.filter_cons_of_pos (by simp [hb]), ih, List.map_cons]
    · rw [List.filter_cons_of_neg (by simp [hb]), ← ih]
      cases hx : endpoints[b.position]? with
      | none => rw [List.filterMap_cons_none (by rw [Bond.named?, hx, Option.map_none])]
      | some x =>
        have hnamed : b.named? endpoints = some ⟨x.name, b.model, b.source⟩ := by
          rw [Bond.named?, hx, Option.map_some]
        have hname : x.name ≠ e.name := fun h => hb (position_unique distinct hx hi h)
        rw [List.filterMap_cons_some hnamed, List.filter_cons_of_neg (by simp [hname])]

theorem any_bindings (distinct : (endpoints.map Endpoint.name).Nodup) {i : Nat} {e : Endpoint}
    (hi : endpoints[i]? = some e) :
    ((assign endpoints models modes options).bindings.any fun b => b.endpoint = e.name) =
      (bonds endpoints models).any fun b => b.position = i := by
  rw [← Bool.not_not (List.any _ _), ← isEmpty_filter, assign, bindings_filter distinct hi,
    List.isEmpty_map, isEmpty_filter, Bool.not_not]

theorem nodup_models_at (i : Nat) :
    (((bonds endpoints models).filter fun b => b.position = i).map Bond.model).Nodup := by
  have h : (((bonds endpoints models).filter fun b => b.position = i).map Bond.ends).Nodup :=
    (nodup_bonds endpoints models).sublist (List.filter_sublist.map _)
  refine List.Nodup.of_map (fun id => (i, id)) ?_
  rw [List.map_map]
  convert h using 1
  refine List.map_congr_left fun b hb => ?_
  have hpos : b.position = i := by simpa using (List.mem_filter.mp hb).2
  rw [Function.comp_apply, Bond.ends, hpos]

theorem bindings_up {b : Binding}
    (hb : b ∈ (assign endpoints models modes options).bindings) :
    ∃ e ∈ endpoints, e.name = b.endpoint ∧ e.isUp = true := by
  obtain ⟨bond, hbond, e, he, rfl⟩ := mem_bindings_iff.mp hb
  exact ⟨e, List.mem_of_getElem? he, rfl, isUpAt_eq he ▸ isUpAt_of_mem_bonds hbond⟩

theorem Basis.isGuess_iff {source : Basis} : source.isGuess = true ↔ source = .typeHint := by
  cases source <;> simp [Basis.isGuess]

/-! ### Plans and bindings -/

/-- A plan shows what the bindings say of its endpoint: all ids in their order, each once, and
which of them rest on a type hint only. -/
structure Plan.Shows (bindings : List Binding) (e : Endpoint) (p : Plan) : Prop where
  name : p.name = e.name
  models : p.models = (bindings.filter fun b => b.endpoint = e.name).map Binding.model
  once : p.models.Nodup
  approximate : p.approximate =
    (bindings.filter fun b => b.endpoint = e.name ∧ b.source = .typeHint).map Binding.model

theorem shows_make (distinct : (endpoints.map Endpoint.name).Nodup) {i : Nat} {e : Endpoint}
    (hi : endpoints[i]? = some e) (selection : Selection) :
    Plan.Shows (assign endpoints models modes options).bindings e
      (Plan.make modes selection e
        ((bonds endpoints models).filter fun b => b.position = i)).1 where
  name := rfl
  models := by
    rw [assign, bindings_filter distinct hi, List.map_map]
    rfl
  once := nodup_models_at i
  approximate := by
    have hsplit : ((assign endpoints models modes options).bindings.filter fun b =>
        b.endpoint = e.name ∧ b.source = .typeHint) =
          ((assign endpoints models modes options).bindings.filter fun b =>
            b.endpoint = e.name).filter fun b => b.source.isGuess := by
      rw [List.filter_filter]
      refine List.filter_congr fun b _ => ?_
      rw [Bool.eq_iff_iff]
      simp [Basis.isGuess_iff, and_comm]
    rw [hsplit, assign, bindings_filter distinct hi, List.filter_map, List.map_map]
    rfl

/-- An endpoint that gets a plan: it is healthy, and bound or kept without a model. -/
def Endpoint.isPlanned (options : AssignOptions) (bindings : List Binding) (e : Endpoint) : Bool :=
  e.isUp && (options.includeEmpty || bindings.any fun b => b.endpoint = e.name)

theorem backends_show (distinct : (endpoints.map Endpoint.name).Nodup) :
    List.Forall₂ (Plan.Shows (assign endpoints models modes options).bindings)
      (endpoints.filter
        (Endpoint.isPlanned options (assign endpoints models modes options).bindings))
      (assign endpoints models modes options).backends := by
  refine forall₂_planFrom (by simpa using distinct) (fun j e hj => ?_) fun j e selection hj => ?_
  · rw [Endpoint.isPlanned, Nat.zero_add, any_bindings distinct hj]
  · rw [Nat.zero_add]
    exact shows_make distinct hj selection

theorem map_name_backends (distinct : (endpoints.map Endpoint.name).Nodup) :
    (assign endpoints models modes options).backends.map Plan.name =
      (endpoints.filter (Endpoint.isPlanned options
        (assign endpoints models modes options).bindings)).map Endpoint.name := by
  rw [← List.forall₂_eq_eq_eq, List.forall₂_map_left_iff, List.forall₂_map_right_iff]
  exact (backends_show distinct).flip.imp fun p e h => h.name

theorem dropped_eq (distinct : (endpoints.map Endpoint.name).Nodup) :
    (assign endpoints models modes options).dropped =
      (endpoints.filter fun e => !e.isUp).map Endpoint.name :=
  droppedFrom_eq (by simpa using distinct)

theorem not_mem_dropped (distinct : (endpoints.map Endpoint.name).Nodup) {e : Endpoint}
    (he : e ∈ endpoints) (hup : e.isUp = true) :
    e.name ∉ (assign endpoints models modes options).dropped := by
  rw [dropped_eq distinct]
  intro hdropped
  obtain ⟨x, hx, hname⟩ := List.mem_map.mp hdropped
  obtain ⟨hx, hdown⟩ := List.mem_filter.mp hx
  obtain rfl := List.inj_on_of_nodup_map distinct hx he hname
  simp [hup] at hdown

/-- **The parts of an assignment agree.** Where names are distinct, the endpoints left out are those
that are down, and there is one plan, in the order of the endpoints, for each healthy one that is
bound or kept empty. A plan shows exactly the bindings to its endpoint; every binding has its plan,
and what is left out occurs in neither. -/
theorem parts_agree (endpoints : List Endpoint) (models : List Model) (modes : ModeTables)
    (options : AssignOptions) (distinct : (endpoints.map Endpoint.name).Nodup) :
    let parts := assign endpoints models modes options
    parts.dropped = (endpoints.filter fun e => !e.isUp).map Endpoint.name ∧
    List.Forall₂ (Plan.Shows parts.bindings)
      (endpoints.filter (Endpoint.isPlanned options parts.bindings)) parts.backends ∧
    (∀ b ∈ parts.bindings, ∃ p ∈ parts.backends, p.name = b.endpoint) ∧
    (∀ b ∈ parts.bindings, b.endpoint ∉ parts.dropped) ∧
    (∀ p ∈ parts.backends, p.name ∉ parts.dropped) := by
  refine ⟨dropped_eq distinct, backends_show distinct, fun b hb => ?_, fun b hb => ?_,
    fun p hp => ?_⟩
  · obtain ⟨e, he, hname, hup⟩ := bindings_up hb
    have hplanned : e.isPlanned options (assign endpoints models modes options).bindings := by
      rw [Endpoint.isPlanned, hup, Bool.true_and, Bool.or_eq_true, List.any_eq_true]
      exact Or.inr ⟨b, hb, decide_eq_true hname.symm⟩
    have hmem : e.name ∈ (assign endpoints models modes options).backends.map Plan.name := by
      rw [map_name_backends distinct]
      exact List.mem_map_of_mem (List.mem_filter.mpr ⟨he, hplanned⟩)
    obtain ⟨p, hp, hpname⟩ := List.mem_map.mp hmem
    exact ⟨p, hp, hpname.trans hname⟩
  · obtain ⟨e, he, hname, hup⟩ := bindings_up hb
    exact hname ▸ not_mem_dropped distinct he hup
  · have hmem := List.mem_map_of_mem (f := Plan.name) hp
    rw [map_name_backends distinct] at hmem
    obtain ⟨e, he, hname⟩ := List.mem_map.mp hmem
    obtain ⟨he, hplanned⟩ := List.mem_filter.mp he
    rw [Endpoint.isPlanned, Bool.and_eq_true] at hplanned
    exact hname ▸ not_mem_dropped distinct he hplanned.1

theorem parts_agree_twins :
    (twinEndpoints.map Endpoint.name).Nodup ∧
      let parts := assign twinEndpoints ({ id := "p", typeHint := some "ollama" } :: twinModels)
        .standard {}
      parts.dropped = ["c"] ∧
        List.Forall₂ (Plan.Shows parts.bindings) (twinEndpoints.take 2) parts.backends := by
  have distinct : (twinEndpoints.map Endpoint.name).Nodup := by decide
  have agree := parts_agree twinEndpoints
    ({ id := "p", typeHint := some "ollama" } :: twinModels) .standard {} distinct
  have planned : twinEndpoints.filter (Endpoint.isPlanned {} (assign twinEndpoints
      ({ id := "p", typeHint := some "ollama" } :: twinModels) .standard {}).bindings) =
        twinEndpoints.take 2 := by
    decide
  exact ⟨distinct, agree.1.trans (by decide), planned ▸ agree.2.1⟩

end GatewayProbe

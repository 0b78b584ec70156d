/-
The bindings of an assignment, exactly.

Models are gone through in their order, and each may be bound to several endpoints; a bond is left
out where its endpoint is down or bound to the same id already. Seen as one pass over all offers of
all models, the bonds are the first offer of each pair of ends whose endpoint is healthy:

* `find?_foldl_addBond` — the bond with given ends, after any number of offers;
* `mem_bonds_iff`, `nodup_bonds` — which ends are bound, and that none are bound twice;
* `bound_iff_servedBy` — the bindings, in terms of the endpoints that serve a model.
-/
import GatewayProbe.Plan.Basic
import GatewayProbe.Proofs.Plan.Serving

namespace GatewayProbe

variable {endpoints : List Endpoint} {models : List Model} {modes : ModeTables}
  {options : AssignOptions}

/-! ### Bonds as first offers -/

theorem find?_addBond (acc : List Bond) (b : Bond) (ends : Nat × String) :
    (addBond endpoints acc b).find? (·.ends = ends) =
      (acc.find? (·.ends = ends)).or
        (([b].filter fun b => isUpAt endpoints b.position).find? (·.ends = ends)) := by
  rw [addBond]
  by_cases hup : isUpAt endpoints b.position = true
  · simp only [List.filter_cons, List.filter_nil, if_pos hup]
    by_cases hknown : acc.any (fun c => c.ends = b.ends) = true
    · rw [if_neg (by simp [hknown])]
      by_cases hb : b.ends = ends
      · -- The bond that is known already hides the new one.
        have hsome : (acc.find? (·.ends = ends)).isSome := by
          rw [List.find?_isSome, ← hb]
          simpa using hknown
        obtain ⟨c, hc⟩ := Option.isSome_iff_exists.mp hsome
        rw [hc, Option.some_or]
      · simp [hb]
    · rw [if_pos (by simp [hup, hknown]), List.find?_append]
  · simp [hup]

/-- Adding offers to bonds keeps what is there; of the offers with the same ends the first to a
healthy endpoint counts. -/
theorem find?_foldl_addBond (offered acc : List Bond) (ends : Nat × String) :
    (offered.foldl (addBond endpoints) acc).find? (·.ends = ends) =
      (acc.find? (·.ends = ends)).or
        ((offered.filter fun b => isUpAt endpoints b.position).find? (·.ends = ends)) := by
  induction offered generalizing acc with
  | nil => simp
  | cons b offered ih =>
    rw [List.foldl_cons, ih, find?_addBond, Option.or_assoc, ← List.find?_append,
      ← List.filter_append, List.singleton_append]

theorem nodup_addBond {acc : List Bond} (h : (acc.map Bond.ends).Nodup) (b : Bond) :
    ((addBond endpoints acc b).map Bond.ends).Nodup := by
  rw [addBond]
  split
  · next hnew =>
    rw [Bool.and_eq_true, Bool.not_eq_true', List.any_eq_false] at hnew
    rw [List.map_append, List.nodup_append]
    refine ⟨h, List.nodup_singleton _, fun x hx y hy => ?_⟩
    obtain ⟨c, hc, rfl⟩ := List.mem_map.mp hx
    obtain rfl := List.mem_singleton.mp hy
    simpa using hnew.2 c hc
  · exact h

/-- No endpoint is bound twice to one id. -/
theorem nodup_bonds (endpoints : List Endpoint) (models : List Model) :
    ((bonds endpoints models).map Bond.ends).Nodup := by
  have hfold : ∀ offered acc : List Bond, (acc.map Bond.ends).Nodup →
      ((offered.foldl (addBond endpoints) acc).map Bond.ends).Nodup := by
    intro offered
    induction offered with
    | nil => exact fun _ h => h
    | cons b offered ih => exact fun acc h => ih _ (nodup_addBond h b)
  exact hfold _ [] List.nodup_nil

/-- The ends that are bound: a healthy endpoint, and a model that can chat and is served there. -/
theorem mem_bonds_iff {i : Nat} {id : String} :
    (∃ b ∈ bonds endpoints models, b.ends = (i, id)) ↔
      isUpAt endpoints i ∧ ∃ m ∈ models, m.id = id ∧ m.embeds = false ∧
        ∃ source, (i, source) ∈ servers endpoints m := by
  have hfind : (∃ b ∈ bonds endpoints models, b.ends = (i, id)) ↔
      ((bonds endpoints models).find? (·.ends = (i, id))).isSome := by
    simp [List.find?_isSome]
  rw [hfind, bonds, find?_foldl_addBond, List.find?_nil, Option.none_or, List.find?_isSome]
  simp only [List.mem_filter, List.mem_flatMap, offers, List.mem_map, Bool.not_eq_true',
    decide_eq_true_eq]
  constructor
  · rintro ⟨b, ⟨⟨m, ⟨hm, hchat⟩, ⟨j, source⟩, hs, rfl⟩, hup⟩, hends⟩
    obtain ⟨rfl, rfl⟩ := Prod.mk.inj hends
    exact ⟨hup, m, hm, rfl, hchat, source, hs⟩
  · rintro ⟨hup, m, hm, rfl, hchat, source, hs⟩
    exact ⟨⟨i, m.id, source⟩, ⟨⟨m, ⟨hm, hchat⟩, (i, source), hs, rfl⟩, hup⟩, rfl⟩

theorem isUpAt_of_mem_bonds {b : Bond} (h : b ∈ bonds endpoints models) :
    isUpAt endpoints b.position = true :=
  (mem_bonds_iff.mp ⟨b, h, rfl⟩).1

theorem isUpAt_eq {i : Nat} {e : Endpoint} (hi : endpoints[i]? = some e) :
    isUpAt endpoints i = e.isUp := by
  rw [isUpAt, hi, Option.any_some]

/-! ### Bindings as bonds under the names of their endpoints -/

theorem mem_bindings_iff {b : Binding} :
    b ∈ (assign endpoints models modes options).bindings ↔
      ∃ bond ∈ bonds endpoints models, ∃ e, endpoints[bond.position]? = some e ∧
        ⟨e.name, bond.model, bond.source⟩ = b := by
  simp [assign, List.mem_filterMap, Bond.named?, Option.map_eq_some_iff]

theorem mem_bindings_iff_bonds (distinct : (endpoints.map Endpoint.name).Nodup) {i : Nat}
    {e : Endpoint} (hi : endpoints[i]? = some e) {id : String} :
    (∃ b ∈ (assign endpoints models modes options).bindings,
        b.endpoint = e.name ∧ b.model = id) ↔
      ∃ bond ∈ bonds endpoints models, bond.ends = (i, id) := by
  constructor
  · rintro ⟨b, hb, hname, rfl⟩
    obtain ⟨bond, hbond, x, hx, rfl⟩ := mem_bindings_iff.mp hb
    exact ⟨bond, hbond, Prod.ext (position_unique distinct hx hi hname) rfl⟩
  · rintro ⟨bond, hbond, hends⟩
    obtain ⟨rfl, rfl⟩ := Prod.mk.inj hends
    exact ⟨_, mem_bindings_iff.mpr ⟨bond, hbond, e, hi, rfl⟩, rfl, rfl⟩

theorem map_ends_bindings :
    ((assign endpoints models modes options).bindings.map fun b => (b.endpoint, b.model)) =
      ((bonds endpoints models).map Bond.ends).filterMap fun ends =>
        (endpoints[ends.1]?).map fun e => (e.name, ends.2) := by
  rw [assign, List.map_filterMap, List.filterMap_map]
  congr 1
  funext b
  simp [Bond.named?, Bond.ends, Function.comp_def]

theorem nodup_bindings (distinct : (endpoints.map Endpoint.name).Nodup) :
    ((assign endpoints models modes options).bindings.map fun b =>
      (b.endpoint, b.model)).Nodup := by
  rw [map_ends_bindings]
  refine List.Nodup.filterMap ?_ (nodup_bonds endpoints models)
  rintro ⟨i, id⟩ ⟨j, id'⟩ pair hi hj
  obtain ⟨e, he, rfl⟩ := Option.map_eq_some_iff.mp hi
  obtain ⟨x, hx, heq⟩ := Option.map_eq_some_iff.mp hj
  -- Equal names are names of one position, so equal pairs come from equal ends.
  obtain ⟨hname, hid⟩ := Prod.mk.inj heq
  exact Prod.ext (position_unique distinct he hx hname.symm) hid.symm

/-- An endpoint is bound to the ids of the models that it serves and that can chat, if it is up. -/
theorem exists_binding_iff (distinct : (endpoints.map Endpoint.name).Nodup) {e : Endpoint}
    (he : e ∈ endpoints) {id : String} :
    (∃ b ∈ (assign endpoints models modes options).bindings,
        b.endpoint = e.name ∧ b.model = id) ↔
      e.isUp ∧ ∃ m ∈ models, m.id = id ∧ m.embeds = false ∧ m.ServedBy endpoints e := by
  obtain ⟨i, hi⟩ := List.mem_iff_getElem?.mp he
  have hserved : ∀ m : Model, (∃ source, (i, source) ∈ servers endpoints m) ↔
      m.ServedBy endpoints e := by
    intro m
    rw [mem_servers_iff distinct]
    constructor
    · rintro ⟨x, hx, served⟩
      obtain rfl : e = x := Option.some_inj.mp (hi.symm.trans hx)
      exact served
    · exact fun served => ⟨e, hi, served⟩
  rw [mem_bindings_iff_bonds distinct hi, mem_bonds_iff, isUpAt_eq hi]
  simp only [hserved]

/-- **What is bound.** Where names are distinct, an endpoint is bound to an id exactly where it is
healthy and serves a model of that id that can chat. Every binding names an endpoint of the list,
and no pair is bound twice. -/
theorem bound_iff_servedBy (endpoints : List Endpoint) (models : List Model) (modes : ModeTables)
    (options : AssignOptions) (distinct : (endpoints.map Endpoint.name).Nodup) :
    let bindings := (assign endpoints models modes options).bindings
    (∀ e ∈ endpoints, ∀ id, (∃ b ∈ bindings, b.endpoint = e.name ∧ b.model = id) ↔
      e.isUp ∧ ∃ m ∈ models, m.id = id ∧ m.embeds = false ∧ m.ServedBy endpoints e) ∧
    (∀ b ∈ bindings, ∃ e ∈ endpoints, e.name = b.endpoint) ∧
    (bindings.map fun b => (b.endpoint, b.model)).Nodup := by
  refine ⟨fun e he id => exists_binding_iff distinct he, fun b hb => ?_, nodup_bindings distinct⟩
  obtain ⟨bond, -, e, he, rfl⟩ := mem_bindings_iff.mp hb
  exact ⟨e, List.mem_of_getElem? he, rfl⟩

/-- A healthy endpoint, another of the same address, and one that is down. -/
def twinEndpoints : List Endpoint :=
  [{ name := "a", type := "ollama", url := some "http://h:1/" },
   { name := "b", type := "Ollama", url := some " http://h:1" },
   { name := "c", type := "vllm", status := "down" }]

/-- A model at the address, and one at the endpoint that is down, with a hint to another. -/
def twinModels : List Model :=
  [{ id := "m", refs := [{ endpoint := "http://h:1//" }] },
   { id := "n", refs := [{ endpoint := " c" }], typeHint := some "OLLAMA" }]

theorem bound_iff_servedBy_twins :
    (twinEndpoints.map Endpoint.name).Nodup ∧
      (∃ b ∈ (assign twinEndpoints twinModels .standard {}).bindings,
        b.endpoint = "a" ∧ b.model = "m") ∧
      ¬ ∃ b ∈ (assign twinEndpoints twinModels .standard {}).bindings,
        b.endpoint = "a" ∧ b.model = "n" := by
  have distinct : (twinEndpoints.map Endpoint.name).Nodup := by decide
  have bound := (bound_iff_servedBy twinEndpoints twinModels .standard {} distinct).1
    { name := "a", type := "ollama", url := some "http://h:1/" } List.mem_cons_self
  refine ⟨distinct, (bound "m").mpr ⟨by decide, _, List.mem_cons_self, rfl, by decide, ?_⟩, ?_⟩
  · refine .reference _ List.mem_cons_self
      (.address [] _ (Text.contains_iff.mp (by decide)) rfl ?_ (by simp))
    exact ⟨_, rfl, by decide⟩
  · rw [bound "n"]
    rintro ⟨-, m, hm, hid, -, served⟩
    rcases List.mem_cons.mp hm with rfl | hm
    · exact absurd hid (by decide)
    obtain rfl := List.mem_singleton.mp hm
    -- The one reference leads to the endpoint that is down, so the hint is not asked.
    have down : ModelRef.LeadsTo twinEndpoints { endpoint := " c" }
        { name := "c", type := "vllm", status := "down" } :=
      .name (fun h => absurd (Text.contains_iff.mpr h) (by decide)) (by simp [twinEndpoints])
        (by decide)
    cases served with
    | reference r hr leads =>
      obtain rfl := List.mem_singleton.mp hr
      cases leads with
      | address _ _ isAddress => exact absurd (Text.contains_iff.mpr isAddress) (by decide)
      | name _ _ same => exact absurd same (by decide)
    | typeHint lost => exact lost _ List.mem_cons_self _ down

end GatewayProbe

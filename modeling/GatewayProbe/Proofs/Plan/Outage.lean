/-
What changes when one endpoint goes down.

Health is asked twice, for bonds and for plans, and never where references and hints are looked up.
So a model whose endpoint goes down keeps leading there, and no other endpoint takes it over:

* `offers_congr` — models ask for the same bonds wherever endpoints differ in their health only;
* `bonds_outage` — the bonds that are left are the old ones to other endpoints;
* `planFrom_first` — where first candidates are taken, each plan depends on its own bonds only;
* `bindings_outage`, `backends_outage` — bindings and plans without those of one endpoint;
* `assign_outage` — bindings, plans and dropped names of the whole assignment.
-/
import GatewayProbe.Proofs.Plan.Agreement

namespace GatewayProbe

/-! ### References do not ask for health -/

/-- What references and hints can tell of an endpoint. -/
def Endpoint.place (e : Endpoint) : String × String × Option String := (e.name, e.type, e.url)

section Places

variable {endpoints others : List Endpoint}

variable (same : endpoints.map Endpoint.place = others.map Endpoint.place)

include same

theorem findIdx?_place (p : String × String × Option String → Bool) :
    endpoints.findIdx? (fun e => p e.place) = others.findIdx? (fun e => p e.place) := by
  have hplace (list : List Endpoint) :
      list.findIdx? (fun e => p e.place) = (list.map Endpoint.place).findIdx? p :=
    List.findIdx?_map.symm
  rw [hplace, hplace, same]

theorem locate?_congr (r : ModelRef) : locate? endpoints r = locate? others r := by
  have hurl : endpoints.findIdx? (·.hasUrl (addressKey r.endpoint)) =
      others.findIdx? (·.hasUrl (addressKey r.endpoint)) :=
    findIdx?_place same fun p => p.2.2.map addressKey == some (addressKey r.endpoint)
  have hname : endpoints.findIdx? (·.name = Text.trim r.endpoint) =
      others.findIdx? (·.name = Text.trim r.endpoint) :=
    findIdx?_place same fun p => p.1 = Text.trim r.endpoint
  rw [locate?, locate?, hurl, hname]

theorem positionsOfType_congr (type : String) :
    positionsOfType endpoints type = positionsOfType others type := by
  have hlength : endpoints.length = others.length := by
    simpa using congrArg List.length same
  have hat (list : List Endpoint) (i : Nat) :
      ((list[i]?).any fun e => Text.eqIgnoreCase e.type type) =
        (((list.map Endpoint.place)[i]?).any fun p => Text.eqIgnoreCase p.2.1 type) := by
    rw [List.getElem?_map, Option.any_map]
    rfl
  simp only [positionsOfType, hlength, hat, same]

theorem offers_congr (m : Model) : offers endpoints m = offers others m := by
  simp only [offers, servers, funext (locate?_congr same), positionsOfType_congr same]

end Places

/-! ### Bonds without one position -/

section Bonds

variable {endpoints others : List Endpoint} {i : Nat}
  (up : ∀ j, isUpAt others j = (isUpAt endpoints j && j != i))

include up

theorem addBond_outage (acc : List Bond) (b : Bond) :
    addBond others (acc.filter (·.position ≠ i)) b =
      (addBond endpoints acc b).filter (·.position ≠ i) := by
  rw [addBond, addBond, up]
  by_cases hb : b.position = i
  · -- Whether the bond was added or not, it is filtered out.
    rw [if_neg (by simp [hb])]
    split
    · rw [List.filter_append, List.filter_cons_of_neg (by simp [hb]), List.filter_nil,
        List.append_nil]
    · rfl
  · have hknown : ((acc.filter (·.position ≠ i)).any fun c => c.ends = b.ends) =
        acc.any fun c => c.ends = b.ends := by
      rw [List.any_filter]
      refine List.any_congr rfl fun c => ?_
      by_cases hc : c.ends = b.ends
      · have hpos : c.position = b.position := congrArg Prod.fst hc
        simp [hc, hpos, hb]
      · simp [hc]
    rw [hknown, bne_iff_ne.mpr hb, Bool.and_true]
    split
    · rw [List.filter_append, List.filter_cons_of_pos (by simpa using hb), List.filter_nil]
    · rfl

/-- The bonds that are left are the old ones to the other endpoints. -/
theorem bonds_outage (same : endpoints.map Endpoint.place = others.map Endpoint.place)
    (models : List Model) :
    bonds others models = (bonds endpoints models).filter (·.position ≠ i) := by
  have hfold : ∀ offered acc : List Bond,
      offered.foldl (addBond others) (acc.filter (·.position ≠ i)) =
        (offered.foldl (addBond endpoints) acc).filter (·.position ≠ i) := by
    intro offered
    induction offered with
    | nil => exact fun acc => rfl
    | cons b offered ih =>
      intro acc
      rw [List.foldl_cons, List.foldl_cons, addBond_outage up, ih]
  rw [bonds, bonds, ← hfold, List.filter_nil, funext (offers_congr same)]

end Bonds

/-! ### Plans that take the first candidate -/

/-- The plan of the endpoint at a position, if it gets one. -/
def planAt? (modes : ModeTables) (includeEmpty : Bool) (bonds : List Bond)
    (place : Endpoint × Nat) : Option Plan :=
  let own := bonds.filter fun b => b.position = place.2
  if !place.1.isUp || (own.isEmpty && !includeEmpty) then none
  else some (Plan.make modes .first place.1 own).1

theorem planFrom_first {modes : ModeTables} {includeEmpty : Bool} {bonds : List Bond}
    {rest : List Endpoint} {i : Nat} {seen : List String}
    (distinct : (rest.map Endpoint.name ++ seen).Nodup) :
    planFrom modes includeEmpty bonds i seen .first rest =
      (rest.zipIdx i).filterMap (planAt? modes includeEmpty bonds) := by
  -- Taking the first candidate leaves nothing behind for the choices that follow.
  induction rest generalizing i seen with
  | nil => rfl
  | cons e rest ih =>
    have hrest := ih (i := i + 1) (List.nodup_middle.mpr distinct)
    rw [planFrom, not_seen distinct, Bool.false_or, List.zipIdx_cons]
    dsimp only
    split
    · next hskip => rw [hrest, List.filterMap_cons_none (by rw [planAt?, if_pos hskip])]
    · next hkeep =>
      rw [List.filterMap_cons_some (by rw [planAt?, if_neg hkeep]), ← hrest]
      rfl

theorem name_of_planAt? {modes : ModeTables} {includeEmpty : Bool} {bonds : List Bond}
    {place : Endpoint × Nat} {p : Plan} (h : planAt? modes includeEmpty bonds place = some p) :
    p.name = place.1.name := by
  rw [planAt?] at h
  split at h
  · cases h
  · rw [← Option.some.inj h]
    rfl

/-- A plan is made of the bonds at its own position. -/
theorem planAt?_filter {modes : ModeTables} {includeEmpty : Bool} {bonds : List Bond} {i : Nat}
    {place : Endpoint × Nat} (h : place.2 ≠ i) :
    planAt? modes includeEmpty (bonds.filter (·.position ≠ i)) place =
      planAt? modes includeEmpty bonds place := by
  have hown : (bonds.filter (·.position ≠ i)).filter (·.position = place.2) =
      bonds.filter (·.position = place.2) := by
    rw [List.filter_filter]
    refine List.filter_congr fun b _ => ?_
    by_cases hb : b.position = place.2
    · simp [hb, h]
    · simp [hb]
  rw [planAt?, hown]
  rfl

/-! ### The whole assignment -/

theorem Bond.named?_congr {endpoints others : List Endpoint}
    (same : endpoints.map Endpoint.place = others.map Endpoint.place) (b : Bond) :
    b.named? others = b.named? endpoints := by
  have hplace (list : List Endpoint) : b.named? list =
      ((list.map Endpoint.place)[b.position]?).map fun p => ⟨p.1, b.model, b.source⟩ := by
    rw [named?, List.getElem?_map, Option.map_map]
    rfl
  rw [hplace, hplace, same]

/-- The names of the endpoints that are down, in their order. -/
def downNames (endpoints : List Endpoint) : List String :=
  (endpoints.filter fun e => !e.isUp).map Endpoint.name

section Outage

variable (front back : List Endpoint) (e : Endpoint) (status : String)

theorem map_place_outage : (front ++ e :: back).map Endpoint.place =
    (front ++ { e with status } :: back).map Endpoint.place := by
  rw [List.map_append, List.map_append]
  rfl

theorem isUpAt_outage (down : status ≠ "healthy") (j : Nat) :
    isUpAt (front ++ { e with status } :: back) j =
      (isUpAt (front ++ e :: back) j && j != front.length) := by
  rcases Nat.lt_trichotomy j front.length with hj | rfl | hj
  · rw [isUpAt, isUpAt, List.getElem?_append_left hj, List.getElem?_append_left hj,
      bne_iff_ne.mpr (by omega),
      Bool.and_true]
  · simp [isUpAt, Endpoint.isUp, down]
  · obtain ⟨k, rfl⟩ := Nat.exists_eq_add_of_lt hj
    have hback (x : Endpoint) : (front ++ x :: back)[front.length + k + 1]? = back[k]? := by
      rw [List.getElem?_append_right (by omega)]
      simp [Nat.add_assoc]
    rw [isUpAt, isUpAt, hback, hback, bne_iff_ne.mpr (by omega), Bool.and_true]

variable {front back e status}

theorem bindings_outage {modes : ModeTables} {options : AssignOptions}
    (distinct : ((front ++ e :: back).map Endpoint.name).Nodup) (down : status ≠ "healthy")
    (models : List Model) :
    (assign (front ++ { e with status } :: back) models modes options).bindings =
      (assign (front ++ e :: back) models modes options).bindings.filter
        (·.endpoint ≠ e.name) := by
  have hsame := map_place_outage front back e status
  have hi : (front ++ e :: back)[front.length]? = some e := by simp
  rw [assign, assign, bonds_outage (isUpAt_outage front back e status down) hsame,
    funext (Bond.named?_congr hsame), List.filterMap_filter, List.filter_filterMap]
  refine List.filterMap_congr fun b _ => ?_
  cases hx : (front ++ e :: back)[b.position]? with
  | none => simp [Bond.named?, hx]
  | some x =>
    -- Names are distinct, so the position and the name say the same.
    have hiff : x.name = e.name ↔ b.position = front.length := by
      refine ⟨position_unique distinct hx hi, fun hpos => ?_⟩
      rw [hpos, hi] at hx
      rw [Option.some.inj hx]
    have hnamed : b.named? (front ++ e :: back) = some ⟨x.name, b.model, b.source⟩ := by
      rw [Bond.named?, hx, Option.map_some]
    rw [hnamed, Option.filter_some]
    by_cases hb : b.position = front.length
    · simp [hb, hiff.mpr hb]
    · simp [hb, mt hiff.mp hb]

/-- Endpoints before and after another one have other names and positions. -/
theorem apart_of_distinct (distinct : ((front ++ e :: back).map Endpoint.name).Nodup) :
    (∀ place ∈ front.zipIdx, place.1.name ≠ e.name ∧ place.2 ≠ front.length) ∧
      ∀ place ∈ back.zipIdx (front.length + 1),
        place.1.name ≠ e.name ∧ place.2 ≠ front.length := by
  rw [List.map_append, List.map_cons, List.nodup_middle, List.nodup_cons,
    List.mem_append] at distinct
  refine ⟨fun place hplace => ⟨fun hname => distinct.1 (.inl ?_), ?_⟩,
    fun place hplace => ⟨fun hname => distinct.1 (.inr ?_), ?_⟩⟩
  · exact hname ▸ List.mem_map_of_mem (List.fst_mem_of_mem_zipIdx hplace)
  · have hlt := List.snd_lt_of_mem_zipIdx hplace
    omega
  · exact hname ▸ List.mem_map_of_mem (List.fst_mem_of_mem_zipIdx hplace)
  · have hle := List.le_snd_of_mem_zipIdx hplace
    omega

theorem backends_outage {modes : ModeTables} {includeEmpty : Bool}
    (distinct : ((front ++ e :: back).map Endpoint.name).Nodup) (down : status ≠ "healthy")
    (models : List Model) :
    (assign (front ++ { e with status } :: back) models modes ⟨includeEmpty, .first⟩).backends =
      (assign (front ++ e :: back) models modes ⟨includeEmpty, .first⟩).backends.filter
        (·.name ≠ e.name) := by
  have hsame := map_place_outage front back e status
  have distinct' : ((front ++ { e with status } :: back).map Endpoint.name ++ []).Nodup := by
    rwa [List.append_nil, List.map_append] at *
  have hbonds := bonds_outage (isUpAt_outage front back e status down) hsame models
  obtain ⟨hfront, hback⟩ := apart_of_distinct distinct
  -- At another position the plan is the same and passes the filter.
  have hother : ∀ place : Endpoint × Nat, place.1.name ≠ e.name ∧ place.2 ≠ front.length →
      planAt? modes includeEmpty (bonds (front ++ { e with status } :: back) models) place =
        (planAt? modes includeEmpty (bonds (front ++ e :: back) models) place).filter
          (·.name ≠ e.name) := by
    rintro place ⟨hname, hpos⟩
    rw [hbonds, planAt?_filter hpos]
    cases hplan : planAt? modes includeEmpty (bonds (front ++ e :: back) models) place with
    | none => rfl
    | some p =>
      have hp : p.name ≠ e.name := by rwa [name_of_planAt? hplan]
      rw [Option.filter_some, if_pos (by simpa using hp)]
  have hown : (planAt? modes includeEmpty (bonds (front ++ e :: back) models)
      (e, front.length)).filter (·.name ≠ e.name) = none := by
    cases hplan : planAt? modes includeEmpty (bonds (front ++ e :: back) models)
        (e, front.length) with
    | none => rfl
    | some p =>
      have hp : p.name = e.name := name_of_planAt? hplan
      rw [Option.filter_some, if_neg (by simp [hp])]
  have hgone : planAt? modes includeEmpty (bonds (front ++ { e with status } :: back) models)
      ({ e with status }, front.length) = none := by
    rw [planAt?, if_pos (by simp [Endpoint.isUp, down])]
  rw [assign, assign]
  dsimp only
  rw [planFrom_first distinct', planFrom_first (by rwa [List.append_nil]), List.filter_filterMap]
  simp only [List.zipIdx_append, List.zipIdx_cons, Nat.zero_add, List.filterMap_append,
    List.filterMap_cons, hgone, hown]
  exact congrArg₂ (· ++ ·) (List.filterMap_congr fun place h => hother place (hfront place h))
    (List.filterMap_congr fun place h => hother place (hback place h))

theorem dropped_around {modes : ModeTables} {options : AssignOptions}
    (distinct : ((front ++ e :: back).map Endpoint.name).Nodup) (models : List Model) :
    (assign (front ++ e :: back) models modes options).dropped =
      downNames front ++ (if e.isUp then [] else [e.name]) ++ downNames back := by
  rw [dropped_eq distinct, List.filter_append, List.filter_cons, List.map_append]
  cases e.isUp <;> simp [downNames]

end Outage

/-- **One endpoint goes down.** Where names are distinct and first candidates are taken, the
bindings that are left are the old ones to all other endpoints, in their order, and so are the
plans, none of them changed. The endpoint itself has no plan, and its name stands at its place
among those that are left out. No model is bound where it was not bound before. -/
theorem assign_outage (front back : List Endpoint) (e : Endpoint) (status : String)
    (models : List Model) (modes : ModeTables) (includeEmpty : Bool)
    (distinct : ((front ++ e :: back).map Endpoint.name).Nodup) (up : e.status = "healthy")
    (down : status ≠ "healthy") :
    let before := assign (front ++ e :: back) models modes ⟨includeEmpty, .first⟩
    let after := assign (front ++ { e with status } :: back) models modes ⟨includeEmpty, .first⟩
    after.bindings = before.bindings.filter (·.endpoint ≠ e.name) ∧
    after.backends = before.backends.filter (·.name ≠ e.name) ∧
    before.dropped = downNames front ++ downNames back ∧
    after.dropped = downNames front ++ e.name :: downNames back ∧
    after.bindings ⊆ before.bindings := by
  have distinct' : ((front ++ { e with status } :: back).map Endpoint.name).Nodup := by
    rwa [List.map_append] at *
  refine ⟨bindings_outage distinct down models, backends_outage distinct down models, ?_, ?_, ?_⟩
  · rw [dropped_around distinct, if_pos (by rw [Endpoint.isUp, up]; rfl), List.append_nil]
  · rw [dropped_around distinct', if_neg (by simpa [Endpoint.isUp] using down), List.append_assoc]
    rfl
  · rw [bindings_outage distinct down models]
    exact List.filter_sublist.subset

/-- A model at the address of two endpoints, with a hint to the type of both. -/
def hintedModels : List Model :=
  [{ id := "m", refs := [{ endpoint := "http://h:1" }], typeHint := some "ollama" },
   { id := "n", refs := [{ endpoint := "b" }] }]

theorem assign_outage_twins :
    (assign twinEndpoints hintedModels .standard {}).bindings =
        [⟨"a", "m", .url⟩, ⟨"b", "n", .name⟩] ∧
      let busy : Endpoint :=
        { name := "a", type := "ollama", url := some "http://h:1/", status := "busy" }
      let after := assign (busy :: twinEndpoints.tail) hintedModels .standard {}
      after.bindings = [⟨"b", "n", .name⟩] ∧ after.backends.map Plan.name = ["b"] ∧
        after.dropped = ["a", "c"] := by
  have outage := assign_outage [] twinEndpoints.tail
    { name := "a", type := "ollama", url := some "http://h:1/" } "busy" hintedModels .standard false
    (by decide) rfl (by decide)
  obtain ⟨hbindings, hbackends, -, hdropped, -⟩ := outage
  refine ⟨by decide, hbindings.trans (by decide), ?_, hdropped.trans (by decide)⟩
  exact (congrArg (List.map Plan.name) hbackends).trans (by decide)

end GatewayProbe

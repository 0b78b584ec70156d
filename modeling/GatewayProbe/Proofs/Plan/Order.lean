/-
What the order of the lists decides.

A gateway lists its endpoints and its models in any order. Where names are distinct, the order of
models decides no more than which of several entries with one id is bound; where addresses are
distinct too, the order of endpoints decides nothing but the order of the plans:

* `mem_ends_perm`, `mem_bonds_perm` — the bonds of models in another order;
* `ModelRef.leadsTo_iff` — where addresses are distinct, no endpoint hides another one;
* `share_perm` — what an endpoint gets, wherever it is listed;
* `Plan.unselected`, `map_unselected_backends` — plans up to the model that represents them;
* `assign_perm` — the whole assignment.
-/
import GatewayProbe.Proofs.Plan.Guesses
import GatewayProbe.Proofs.Plan.Shares

namespace GatewayProbe

variable {endpoints others : List Endpoint} {models models' : List Model} {modes : ModeTables}
  {options : AssignOptions}

/-! ### Models in another order -/

theorem mem_ends_perm (perm : models'.Perm models) {ends : Nat × String} :
    ends ∈ (bonds endpoints models').map Bond.ends ↔
      ends ∈ (bonds endpoints models).map Bond.ends := by
  obtain ⟨i, id⟩ := ends
  simp only [List.mem_map, mem_bonds_iff, perm.mem_iff]

/-- Which pairs are bound does not depend on the order of models. -/
theorem mem_pairs_perm (perm : models'.Perm models) {pair : String × String} :
    pair ∈ (assign endpoints models' modes options).bindings.map
        (fun b => (b.endpoint, b.model)) ↔
      pair ∈ (assign endpoints models modes options).bindings.map
        fun b => (b.endpoint, b.model) := by
  simp only [map_ends_bindings, List.mem_filterMap, mem_ends_perm perm]

theorem Model.id_of_offer? {i : Nat} {id : String} {m : Model} {b : Bond}
    (h : m.offer? endpoints i id = some b) : m.id = id := by
  rw [offer?] at h
  split at h
  · cases h
  · have hends : b.ends = (i, id) := by simpa using List.find?_some h
    obtain ⟨p, -, rfl⟩ := List.mem_map.mp (List.mem_of_find?_eq_some h)
    exact congrArg Prod.snd hends

/-- Where ids are distinct, a bond is what any model offers to a healthy endpoint. -/
theorem mem_bonds_iff_offer (distinctIds : (models.map Model.id).Nodup) {b : Bond} :
    b ∈ bonds endpoints models ↔ isUpAt endpoints b.position = true ∧
      ∃ m ∈ models, m.offer? endpoints b.position b.model = some b := by
  constructor
  · intro hb
    have hup := isUpAt_of_mem_bonds hb
    have hfirst : models.findSome? (Model.offer? endpoints b.position b.model) = some b := by
      rw [← find?_bonds hup]
      exact find?_bonds_eq_some_iff.mpr ⟨hb, rfl⟩
    obtain ⟨m, hm, hoffer⟩ := List.exists_of_findSome?_eq_some hfirst
    exact ⟨hup, m, hm, hoffer⟩
  · rintro ⟨hup, m, hm, hoffer⟩
    have hsome : (models.findSome? (Model.offer? endpoints b.position b.model)).isSome :=
      List.findSome?_isSome_iff.mpr ⟨m, hm, by rw [hoffer]; rfl⟩
    obtain ⟨c, hc⟩ := Option.isSome_iff_exists.mp hsome
    obtain ⟨m', hm', hoffer'⟩ := List.exists_of_findSome?_eq_some hc
    -- Whoever offers a bond for the id has the id, so there is only one model that does.
    obtain rfl := List.inj_on_of_nodup_map distinctIds hm' hm
      ((Model.id_of_offer? hoffer').trans (Model.id_of_offer? hoffer).symm)
    obtain rfl := Option.some.inj (hoffer'.symm.trans hoffer)
    rw [← find?_bonds hup] at hc
    exact (find?_bonds_eq_some_iff.mp hc).1

theorem mem_bonds_perm (perm : models'.Perm models) (distinctIds : (models.map Model.id).Nodup)
    {b : Bond} : b ∈ bonds endpoints models' ↔ b ∈ bonds endpoints models := by
  have distinctIds' : (models'.map Model.id).Nodup := (perm.map Model.id).nodup_iff.mpr distinctIds
  simp only [mem_bonds_iff_offer distinctIds, mem_bonds_iff_offer distinctIds', perm.mem_iff]

/-! ### Which endpoints get a plan -/

theorem Endpoint.isPlanned_congr {bindings bindings' : List Binding}
    (h : ∀ name, (∃ b ∈ bindings', b.endpoint = name) ↔ ∃ b ∈ bindings, b.endpoint = name)
    (e : Endpoint) : e.isPlanned options bindings' = e.isPlanned options bindings := by
  have hany : (bindings'.any fun b => b.endpoint = e.name) =
      bindings.any fun b => b.endpoint = e.name := by
    rw [Bool.eq_iff_iff]
    simpa using h e.name
  rw [isPlanned, isPlanned, hany]

theorem exists_name_congr {bindings bindings' : List Binding}
    (h : ∀ pair, pair ∈ bindings'.map (fun b => (b.endpoint, b.model)) ↔
      pair ∈ bindings.map fun b => (b.endpoint, b.model)) (name : String) :
    (∃ b ∈ bindings', b.endpoint = name) ↔ ∃ b ∈ bindings, b.endpoint = name := by
  have hpairs (list : List Binding) : (∃ b ∈ list, b.endpoint = name) ↔
      ∃ id, (name, id) ∈ list.map fun b => (b.endpoint, b.model) := by
    simp only [List.mem_map, Prod.mk.injEq]
    constructor
    · rintro ⟨b, hb, hname⟩
      exact ⟨b.model, b, hb, hname, rfl⟩
    · rintro ⟨id, b, hb, hname, -⟩
      exact ⟨b, hb, hname⟩
  simp only [hpairs, h]

theorem map_mode_backends (distinct : (endpoints.map Endpoint.name).Nodup) :
    ((assign endpoints models modes options).backends.map fun p => (p.name, p.mode)) =
      (endpoints.filter (Endpoint.isPlanned options
        (assign endpoints models modes options).bindings)).map
          fun e => (e.name, modes.modeOf e.type) := by
  have hplans : List.Forall₂ (fun e p => (e.name, modes.modeOf e.type) = (p.name, p.mode))
      (endpoints.filter (Endpoint.isPlanned options
        (assign endpoints models modes options).bindings))
      (assign endpoints models modes options).backends := by
    refine forall₂_planFrom (by simpa using distinct) (fun j e hj => ?_) fun _ _ _ _ => rfl
    rw [Endpoint.isPlanned, Nat.zero_add, any_bindings distinct hj]
  rw [← List.forall₂_eq_eq_eq, List.forall₂_map_left_iff, List.forall₂_map_right_iff]
  exact hplans.flip.imp fun p e h => h.symm

/-! ### Endpoints in another order -/

/-- The address of an endpoint, without what does not count. -/
def Endpoint.key? (e : Endpoint) : Option String := e.url.map addressKey

/-- How a reference is found. -/
def ModelRef.basis (r : ModelRef) : Basis := if r.isAddress then .url else .name

theorem ModelRef.sameAddress_iff {r : ModelRef} {e : Endpoint} :
    r.SameAddress e ↔ e.key? = some (addressKey r.endpoint) := by
  simp [SameAddress, Endpoint.key?]

/-- Where addresses are distinct, no endpoint hides another one of the same address. -/
theorem ModelRef.leadsTo_iff (distinctKeys : (endpoints.filterMap Endpoint.key?).Nodup)
    {r : ModelRef} {e : Endpoint} : r.LeadsTo endpoints e ↔
      e ∈ endpoints ∧ if r.isAddress then r.SameAddress e else e.name = Text.trim r.endpoint := by
  by_cases h : r.isAddress = true
  · rw [if_pos h]
    refine ⟨fun leads => ?_, fun ⟨he, same⟩ => ?_⟩
    · cases leads with
      | address before after _ listed same => exact ⟨by simp [listed], same⟩
      | name isName => exact absurd (Text.contains_iff.mp h) isName
    · obtain ⟨before, after, rfl⟩ := List.append_of_mem he
      refine .address before after (Text.contains_iff.mp h) rfl same fun x hx hsame => ?_
      -- Another endpoint of the address before it would list the key twice.
      rw [sameAddress_iff] at same hsame
      rw [List.filterMap_append, List.filterMap_cons_some same, List.nodup_append] at distinctKeys
      exact distinctKeys.2.2 _ (List.mem_filterMap.mpr ⟨x, hx, hsame⟩) _ List.mem_cons_self rfl
  · rw [if_neg h]
    have isName : ¬ "://".toList <:+: r.endpoint.toList := fun hc => h (Text.contains_iff.mpr hc)
    refine ⟨fun leads => ?_, fun ⟨he, same⟩ => .name isName he same⟩
    cases leads with
    | address _ _ isAddress => exact absurd isAddress isName
    | name _ listed same => exact ⟨listed, same⟩

theorem basis_of_locate? {r : ModelRef} {i : Nat} {source : Basis}
    (h : locate? endpoints r = some (i, source)) : source = r.basis := by
  rw [locate?] at h
  rw [ModelRef.basis]
  split at h
  · next haddress =>
    obtain ⟨j, -, hj⟩ := Option.map_eq_some_iff.mp h
    rw [if_pos haddress, ← (Prod.mk.inj hj).2]
  · next hname =>
    obtain ⟨j, -, hj⟩ := Option.map_eq_some_iff.mp h
    rw [if_neg hname, ← (Prod.mk.inj hj).2]

theorem locate?_eq_some_iff (distinct : (endpoints.map Endpoint.name).Nodup) {r : ModelRef}
    {i : Nat} {e : Endpoint} (hi : endpoints[i]? = some e) {source : Basis} :
    locate? endpoints r = some (i, source) ↔ source = r.basis ∧ r.LeadsTo endpoints e := by
  constructor
  · intro h
    obtain ⟨x, hx, leads⟩ := (locate?_iff distinct).mp ⟨source, h⟩
    obtain rfl : e = x := Option.some_inj.mp (hi.symm.trans hx)
    exact ⟨basis_of_locate? h, leads⟩
  · rintro ⟨rfl, leads⟩
    obtain ⟨source, h⟩ := (locate?_iff distinct).mpr ⟨e, hi, leads⟩
    exact basis_of_locate? h ▸ h

theorem lookup_firstOfPosition (i : Nat) (seen : List Nat) (found : List (Nat × Basis)) :
    (firstOfPosition seen found).lookup i = if i ∈ seen then none else found.lookup i := by
  induction found generalizing seen with
  | nil => rw [firstOfPosition, List.lookup_nil, ite_self]
  | cons head rest ih =>
    obtain ⟨j, source⟩ := head
    rw [firstOfPosition]
    by_cases hj : j ∈ seen
    · rw [if_pos (List.contains_iff_mem.mpr hj), ih, List.lookup_cons]
      by_cases hi : i ∈ seen
      · rw [if_pos hi, if_pos hi]
      · have hij : i ≠ j := fun h => hi (h ▸ hj)
        rw [if_neg hi, if_neg hi, beq_false_of_ne hij]
    · rw [if_neg (fun hc => hj (List.contains_iff_mem.mp hc)), List.lookup_cons, ih,
        List.lookup_cons]
      by_cases hij : i = j
      · subst hij
        rw [if_neg hj, BEq.rfl]
      · rw [beq_false_of_ne hij]
        simp [hij]

theorem lookup_map_const {is : List Nat} (i : Nat) (source : Basis) :
    (is.map fun j => (j, source)).lookup i = if i ∈ is then some source else none := by
  induction is with
  | nil => rfl
  | cons j is ih =>
    rw [List.map_cons, List.lookup_cons, ih]
    by_cases hij : i = j
    · simp [hij]
    · simp [beq_false_of_ne hij, hij]

theorem mem_positionsOfType_iff {i : Nat} {e : Endpoint} (hi : endpoints[i]? = some e)
    {type : String} : i ∈ positionsOfType endpoints type ↔ Text.eqIgnoreCase e.type type := by
  simp [mem_positionsOfType, hi]

theorem leadsTo_perm (distinctKeys : (endpoints.filterMap Endpoint.key?).Nodup)
    (perm : others.Perm endpoints) {r : ModelRef} {e : Endpoint} :
    r.LeadsTo others e ↔ r.LeadsTo endpoints e := by
  have distinctKeys' : (others.filterMap Endpoint.key?).Nodup :=
    (perm.filterMap Endpoint.key?).nodup_iff.mpr distinctKeys
  rw [ModelRef.leadsTo_iff distinctKeys, ModelRef.leadsTo_iff distinctKeys', perm.mem_iff]

section Endpoints

variable (distinct : (endpoints.map Endpoint.name).Nodup)
  (distinctKeys : (endpoints.filterMap Endpoint.key?).Nodup) (perm : others.Perm endpoints)

include distinct distinctKeys perm

theorem locate?_perm_eq_none_iff {r : ModelRef} :
    locate? others r = none ↔ locate? endpoints r = none := by
  have distinct' : (others.map Endpoint.name).Nodup :=
    (perm.map Endpoint.name).nodup_iff.mpr distinct
  simp only [locate?_eq_none_iff distinct, locate?_eq_none_iff distinct',
    leadsTo_perm distinctKeys perm]

variable {i j : Nat} {e : Endpoint} (hi : endpoints[i]? = some e) (hj : others[j]? = some e)

include hi hj

theorem locate?_perm (r : ModelRef) (source : Basis) :
    locate? others r = some (j, source) ↔ locate? endpoints r = some (i, source) := by
  have distinct' : (others.map Endpoint.name).Nodup :=
    (perm.map Endpoint.name).nodup_iff.mpr distinct
  rw [locate?_eq_some_iff distinct hi, locate?_eq_some_iff distinct' hj,
    leadsTo_perm distinctKeys perm]

/-- The first reference that leads to an endpoint is the same, wherever the endpoint is listed. -/
theorem lookup_located_perm (refs : List ModelRef) :
    (refs.filterMap (locate? others)).lookup j = (refs.filterMap (locate? endpoints)).lookup i := by
  have hat (r : ModelRef) (source : Basis) :=
    locate?_perm distinct distinctKeys perm hi hj r source
  induction refs with
  | nil => rfl
  | cons r refs ih =>
    cases hothers : locate? others r with
    | none =>
      have hnone := (locate?_perm_eq_none_iff distinct distinctKeys perm).mp hothers
      rw [List.filterMap_cons_none hothers, List.filterMap_cons_none hnone, ih]
    | some q =>
      obtain ⟨l, source'⟩ := q
      cases hendpoints : locate? endpoints r with
      | none =>
        have hnone := (locate?_perm_eq_none_iff distinct distinctKeys perm).mpr hendpoints
        rw [hothers] at hnone
        cases hnone
      | some p =>
        obtain ⟨k, source⟩ := p
        rw [List.filterMap_cons_some hothers, List.filterMap_cons_some hendpoints,
          List.lookup_cons, List.lookup_cons, ih]
        by_cases hik : i = k
        · subst hik
          obtain ⟨rfl, rfl⟩ := Prod.mk.inj
            (Option.some.inj (hothers.symm.trans ((hat r source).mpr hendpoints)))
          rw [BEq.rfl, BEq.rfl]
        · have hjl : j ≠ l := by
            rintro rfl
            have h := hendpoints.symm.trans ((hat r source').mp hothers)
            exact hik (Prod.mk.inj (Option.some.inj h)).1.symm
          rw [beq_false_of_ne hik, beq_false_of_ne hjl]

/-- A model is found at an endpoint in the same way, wherever the endpoint is listed. -/
theorem basisAt?_perm (m : Model) : m.basisAt? others j = m.basisAt? endpoints i := by
  rw [Model.basisAt?, Model.basisAt?]
  congr 1
  by_cases lost : ∀ r ∈ m.refs, locate? endpoints r = none
  · have lost' : ∀ r ∈ m.refs, locate? others r = none := fun r hr =>
      (locate?_perm_eq_none_iff distinct distinctKeys perm).mpr (lost r hr)
    rw [servers_of_lost lost, servers_of_lost lost']
    cases m.typeHint with
    | none => rfl
    | some type =>
      simp only [Option.toList_some, List.flatMap_cons, List.flatMap_nil, List.append_nil,
        lookup_map_const, mem_positionsOfType_iff hi, mem_positionsOfType_iff hj]
  · push Not at lost
    obtain ⟨r, hr, hfound⟩ := lost
    obtain ⟨p, hp⟩ := Option.ne_none_iff_exists'.mp hfound
    obtain ⟨q, hq⟩ := Option.ne_none_iff_exists'.mp
      (mt (locate?_perm_eq_none_iff distinct distinctKeys perm).mp hfound)
    rw [servers_of_found hr hp, servers_of_found hr hq, lookup_firstOfPosition,
      lookup_firstOfPosition, if_neg List.not_mem_nil, if_neg List.not_mem_nil]
    exact lookup_located_perm distinct distinctKeys perm hi hj m.refs

theorem share_perm (models : List Model) : share others models j = share endpoints models i := by
  rw [share, share, funext (basisAt?_perm distinct distinctKeys perm hi hj)]

end Endpoints

/-- The bindings are the same, wherever the endpoints are listed. -/
theorem mem_bindings_perm (distinct : (endpoints.map Endpoint.name).Nodup)
    (distinctKeys : (endpoints.filterMap Endpoint.key?).Nodup) (perm : others.Perm endpoints)
    {b : Binding} : b ∈ (assign others models modes options).bindings ↔
      b ∈ (assign endpoints models modes options).bindings := by
  rw [mem_bindings_iff_share, mem_bindings_iff_share]
  constructor
  · rintro ⟨j, e, hj, up, hname, hshare⟩
    obtain ⟨i, hi⟩ := List.mem_iff_getElem?.mp (perm.subset (List.mem_of_getElem? hj))
    rw [share_perm distinct distinctKeys perm hi hj] at hshare
    exact ⟨i, e, hi, up, hname, hshare⟩
  · rintro ⟨i, e, hi, up, hname, hshare⟩
    obtain ⟨j, hj⟩ := List.mem_iff_getElem?.mp (perm.symm.subset (List.mem_of_getElem? hi))
    rw [← share_perm distinct distinctKeys perm hi hj] at hshare
    exact ⟨j, e, hj, up, hname, hshare⟩

/-! ### Plans up to their representative models -/

/-- A plan without the model that represents it. -/
def Plan.unselected (p : Plan) : Plan := { p with selected := none }

/-- The plan of an endpoint with its share, without the model that represents it. -/
def Plan.ofShare (modes : ModeTables) (e : Endpoint) (own : List (String × Basis)) : Plan where
  name := e.name
  type := e.type
  url := e.url
  status := e.status
  models := own.map Prod.fst
  mode := modes.modeOf e.type
  approximate := (own.filter fun entry => entry.2.isGuess).map Prod.fst

theorem unselected_make (selection : Selection) (e : Endpoint) (own : List Bond) :
    (Plan.make modes selection e own).1.unselected = Plan.ofShare modes e (own.map Bond.entry) := by
  rw [Plan.make, Plan.unselected, Plan.ofShare, List.map_map, List.filter_map, List.map_map]
  rfl

/-- The plans of an assignment follow the endpoints that are kept, and each shows the share of its
own endpoint. -/
theorem map_unselected_backends (distinct : (endpoints.map Endpoint.name).Nodup) :
    (assign endpoints models modes options).backends.map Plan.unselected =
      (endpoints.filter (Endpoint.isPlanned options
        (assign endpoints models modes options).bindings)).map fun e =>
          Plan.ofShare modes e (share endpoints models (endpoints.idxOf e)) := by
  have hplans : List.Forall₂ (fun e p => e.isUp = true →
        p.unselected = Plan.ofShare modes e (share endpoints models (endpoints.idxOf e)))
      (endpoints.filter (Endpoint.isPlanned options
        (assign endpoints models modes options).bindings))
      (assign endpoints models modes options).backends := by
    refine forall₂_planFrom (by simpa using distinct) (fun j e hj => ?_)
      fun j e selection hj up => ?_
    · rw [Endpoint.isPlanned, Nat.zero_add, any_bindings distinct hj]
    · have hidx : endpoints.idxOf e = j := by
        obtain ⟨hlt, hget⟩ := List.getElem?_eq_some_iff.mp hj
        rw [← hget]
        exact (List.Nodup.of_map _ distinct).idxOf_getElem j hlt
      rw [Nat.zero_add, unselected_make, share_eq ((isUpAt_eq hj).trans up), hidx]
  have hup : ∀ e ∈ endpoints.filter (Endpoint.isPlanned options
      (assign endpoints models modes options).bindings), e.isUp = true := by
    intro e he
    have hkept := (List.mem_filter.mp he).2
    rw [Endpoint.isPlanned, Bool.and_eq_true] at hkept
    exact hkept.1
  rw [← List.forall₂_eq_eq_eq, List.forall₂_map_left_iff, List.forall₂_map_right_iff]
  refine List.Forall₂.flip (List.forall₂_iff_get.mpr ⟨hplans.length_eq, fun k hk hk' => ?_⟩)
  exact (hplans.get hk hk') (hup _ (List.get_mem _ _))

/-- **The order of the lists decides little.** Let names be distinct. Whatever the order of models,
the same pairs are bound, the same backends get a plan, in the same order and mode, and the same
names are left out; where ids are distinct, each pair is also found in the same way. Where addresses
are distinct, the bindings are the same whatever the order of endpoints, and each backend has the
same plan up to the model that represents it. -/
theorem assign_perm (endpoints : List Endpoint) (models : List Model) (modes : ModeTables)
    (options : AssignOptions) (distinct : (endpoints.map Endpoint.name).Nodup) :
    let old := assign endpoints models modes options
    (∀ models' : List Model, models'.Perm models →
      let new := assign endpoints models' modes options
      (∀ pair, pair ∈ new.bindings.map (fun b => (b.endpoint, b.model)) ↔
        pair ∈ old.bindings.map fun b => (b.endpoint, b.model)) ∧
      (new.backends.map fun p => (p.name, p.mode)) = old.backends.map (fun p => (p.name, p.mode)) ∧
      new.dropped = old.dropped ∧
      ((models.map Model.id).Nodup → ∀ b, b ∈ new.bindings ↔ b ∈ old.bindings)) ∧
    ((endpoints.filterMap Endpoint.key?).Nodup → ∀ endpoints' : List Endpoint,
      endpoints'.Perm endpoints →
      let new := assign endpoints' models modes options
      (∀ b, b ∈ new.bindings ↔ b ∈ old.bindings) ∧
      (new.backends.map Plan.unselected).Perm (old.backends.map Plan.unselected)) := by
  intro old
  refine ⟨fun models' perm => ⟨fun pair => mem_pairs_perm perm, ?_, rfl, fun distinctIds b => ?_⟩,
    fun distinctKeys endpoints' perm => ?_⟩
  · have hplanned : Endpoint.isPlanned options (assign endpoints models' modes options).bindings =
        Endpoint.isPlanned options (assign endpoints models modes options).bindings :=
      funext (Endpoint.isPlanned_congr (exists_name_congr fun pair => mem_pairs_perm perm))
    rw [map_mode_backends distinct, map_mode_backends distinct, hplanned]
  · simp only [old, mem_bindings_iff, mem_bonds_perm perm distinctIds]
  · have hbindings : ∀ b, b ∈ (assign endpoints' models modes options).bindings ↔
        b ∈ (assign endpoints models modes options).bindings :=
      fun b => mem_bindings_perm distinct distinctKeys perm
    have hplanned : Endpoint.isPlanned options (assign endpoints' models modes options).bindings =
        Endpoint.isPlanned options (assign endpoints models modes options).bindings :=
      funext (Endpoint.isPlanned_congr fun name => by simp only [hbindings])
    have distinct' : (endpoints'.map Endpoint.name).Nodup :=
      (perm.map Endpoint.name).nodup_iff.mpr distinct
    refine ⟨hbindings, ?_⟩
    rw [map_unselected_backends distinct, map_unselected_backends distinct', hplanned]
    refine .trans (.of_eq (List.map_congr_left fun e he => ?_)) ((perm.filter _).map _)
    -- An endpoint has a place of its own in either list, and its share is the same there.
    have he := (List.mem_filter.mp he).1
    rw [share_perm distinct distinctKeys perm (List.getElem?_idxOf (perm.subset he))
      (List.getElem?_idxOf he)]

/-- Two endpoints of one type with addresses of their own. -/
def pairEndpoints : List Endpoint :=
  [{ name := "a", type := "ollama", url := some "http://a:1/" },
   { name := "b", type := "Ollama", url := some "http://b:1" }]

/-- A model at one of the addresses, and one with a hint to the type of both. -/
def pairModels : List Model :=
  [{ id := "m", refs := [{ endpoint := "http://b:1//" }] },
    { id := "n", typeHint := some "OLLAMA" }]

theorem assign_perm_reversed :
    (pairEndpoints.map Endpoint.name).Nodup ∧ (pairEndpoints.filterMap Endpoint.key?).Nodup ∧
      (pairModels.map Model.id).Nodup ∧
      ⟨"b", "m", .url⟩ ∈ (assign pairEndpoints pairModels.reverse .standard {}).bindings ∧
      ((assign pairEndpoints pairModels.reverse .standard {}).backends.map
        fun p => (p.name, p.mode)) = [("a", .passthrough), ("b", .passthrough)] ∧
      ⟨"a", "n", .typeHint⟩ ∈
        (assign pairEndpoints.reverse pairModels .standard {}).bindings := by
  have distinct : (pairEndpoints.map Endpoint.name).Nodup := by decide
  have distinctKeys : (pairEndpoints.filterMap Endpoint.key?).Nodup := by decide
  have distinctIds : (pairModels.map Model.id).Nodup := by decide
  obtain ⟨hmodels, hendpoints⟩ := assign_perm pairEndpoints pairModels .standard {} distinct
  obtain ⟨-, hbackends, -, hbindings⟩ := hmodels pairModels.reverse (List.reverse_perm _)
  obtain ⟨hsame, -⟩ := hendpoints distinctKeys pairEndpoints.reverse (List.reverse_perm _)
  exact ⟨distinct, distinctKeys, distinctIds, (hbindings distinctIds _).mpr (by decide),
    hbackends.trans (by decide), (hsame _).mpr (by decide)⟩

end GatewayProbe

/-
Which endpoint serves which model, said of endpoints and references alone.

The plans look references up by position: an address by its key, a name as it stands, a type hint
where nothing was found. This file says the same without positions and lookups, and proves that
both agree on endpoints of distinct names:

* `ModelRef.LeadsTo` — the endpoint a reference leads to, `locate?_iff` its position;
* `Model.ServedBy` — the endpoints that serve a model, `mem_servers_iff` their positions.

Health plays no part here. A reference to an endpoint that is down still leads somewhere, so it
keeps the type hint from being asked.
-/
import Mathlib.Data.List.Nodup
import GatewayProbe.Plan.Binding

namespace GatewayProbe

/-- The endpoint has the address that a reference gives. -/
def ModelRef.SameAddress (r : ModelRef) (e : Endpoint) : Prop :=
  ∃ url, e.url = some url ∧ addressKey url = addressKey r.endpoint

/-- A reference leads to an endpoint: one that holds `://` to the first endpoint of the same
address, any other to the endpoint of the name that is left after trimming. -/
inductive ModelRef.LeadsTo (endpoints : List Endpoint) (r : ModelRef) (e : Endpoint) : Prop
  | address (before after : List Endpoint) (isAddress : "://".toList <:+: r.endpoint.toList)
      (listed : endpoints = before ++ e :: after) (same : r.SameAddress e)
      (first : ∀ x ∈ before, ¬ r.SameAddress x)
  | name (isName : ¬ "://".toList <:+: r.endpoint.toList) (listed : e ∈ endpoints)
      (same : e.name = Text.trim r.endpoint)

/-- An endpoint serves a model: a reference of the model leads to it, or none leads anywhere and
the type hint is its type. -/
inductive Model.ServedBy (endpoints : List Endpoint) (m : Model) (e : Endpoint) : Prop
  | reference (r : ModelRef) (listed : r ∈ m.refs) (leads : r.LeadsTo endpoints e)
  | typeHint (lost : ∀ r ∈ m.refs, ∀ x, ¬ r.LeadsTo endpoints x) (type : String)
      (hint : m.typeHint = some type) (same : Text.eqIgnoreCase e.type type)

variable {endpoints : List Endpoint}

theorem ModelRef.LeadsTo.mem {r : ModelRef} {e : Endpoint} (h : r.LeadsTo endpoints e) :
    e ∈ endpoints := by
  cases h with
  | address before after _ listed => simp [listed]
  | name _ listed => exact listed

/-- Where names are distinct, a name belongs to one position. -/
theorem position_unique (distinct : (endpoints.map Endpoint.name).Nodup) {i j : Nat}
    {e x : Endpoint} (hi : endpoints[i]? = some e) (hj : endpoints[j]? = some x)
    (same : e.name = x.name) : i = j := by
  have hi' : (endpoints.map Endpoint.name)[i]? = some e.name := by
    rw [List.getElem?_map, hi, Option.map_some]
  have hj' : (endpoints.map Endpoint.name)[j]? = some e.name := by
    rw [List.getElem?_map, hj, same, Option.map_some]
  obtain ⟨_, hget⟩ := List.getElem?_eq_some_iff.mp hi'
  obtain ⟨_, hget'⟩ := List.getElem?_eq_some_iff.mp hj'
  exact distinct.getElem_inj_iff.mp (hget.trans hget'.symm)

/-! ### References -/

theorem Endpoint.hasUrl_iff {r : ModelRef} {e : Endpoint} :
    e.hasUrl (addressKey r.endpoint) = true ↔ r.SameAddress e := by
  simp [Endpoint.hasUrl, ModelRef.SameAddress]

/-- The position of the first item that passes a test splits the list there. -/
theorem findIdx?_eq_some_iff_append {α : Type} {p : α → Bool} {xs : List α} {i : Nat} :
    xs.findIdx? p = some i ↔ ∃ before x after,
      xs = before ++ x :: after ∧ before.length = i ∧ p x = true ∧ ∀ y ∈ before, p y = false := by
  induction xs generalizing i with
  | nil => simp
  | cons x xs ih =>
    rw [List.findIdx?_cons]
    by_cases hx : p x = true
    · rw [if_pos hx]
      constructor
      · rintro ⟨⟩
        exact ⟨[], x, xs, rfl, rfl, hx, by simp⟩
      · rintro ⟨before, y, after, hxs, rfl, -, hbefore⟩
        cases before with
        | nil => rfl
        | cons z before =>
          obtain ⟨rfl, -⟩ := List.cons.inj hxs
          simp [hx] at hbefore
    · rw [if_neg hx, Option.map_eq_some_iff]
      constructor
      · rintro ⟨j, hj, rfl⟩
        obtain ⟨before, y, after, rfl, rfl, hy, hbefore⟩ := ih.mp hj
        exact ⟨x :: before, y, after, rfl, rfl, hy, by simpa [hx] using hbefore⟩
      · rintro ⟨before, y, after, hxs, rfl, hy, hbefore⟩
        cases before with
        | nil =>
          obtain ⟨rfl, -⟩ := List.cons.inj hxs
          exact absurd hy hx
        | cons z before =>
          obtain ⟨rfl, rfl⟩ := List.cons.inj hxs
          refine ⟨before.length, ih.mpr ⟨before, y, after, rfl, rfl, hy, ?_⟩, rfl⟩
          exact fun w hw => hbefore w (List.mem_cons_of_mem _ hw)

/-- The position of an address is that of the first endpoint with the same address. -/
theorem locate?_iff_of_address (distinct : (endpoints.map Endpoint.name).Nodup) {r : ModelRef}
    {i : Nat} (h : "://".toList <:+: r.endpoint.toList) :
    (∃ source, locate? endpoints r = some (i, source)) ↔
      ∃ e, endpoints[i]? = some e ∧ r.LeadsTo endpoints e := by
  rw [locate?, ModelRef.isAddress, if_pos (Text.contains_iff.mpr h)]
  constructor
  · rintro ⟨source, hs⟩
    obtain ⟨j, hj, hij⟩ := Option.map_eq_some_iff.mp hs
    obtain ⟨rfl, -⟩ := Prod.mk.inj hij
    obtain ⟨before, e, after, listed, rfl, he, hb⟩ := findIdx?_eq_some_iff_append.mp hj
    refine ⟨e, by simp [listed], .address before after h listed (Endpoint.hasUrl_iff.mp he) ?_⟩
    intro x hx hsame
    exact absurd (Endpoint.hasUrl_iff.mpr hsame) (by simp [hb x hx])
  · rintro ⟨e, hi, hleads⟩
    cases hleads with
    | address before after _ listed same first =>
      -- Names are distinct, so the endpoint is at no other position than after those before it.
      have hbefore : endpoints[before.length]? = some e := by simp [listed]
      have hpos : i = before.length := position_unique distinct hi hbefore rfl
      refine ⟨.url, Option.map_eq_some_iff.mpr ⟨i, ?_, rfl⟩⟩
      refine findIdx?_eq_some_iff_append.mpr
        ⟨before, e, after, listed, hpos.symm, Endpoint.hasUrl_iff.mpr same, fun x hx => ?_⟩
      exact Bool.eq_false_iff.mpr fun hu => first x hx (Endpoint.hasUrl_iff.mp hu)
    | name isName => exact absurd h isName

/-- The position of a name is that of the endpoint that has it. -/
theorem locate?_iff_of_name (distinct : (endpoints.map Endpoint.name).Nodup) {r : ModelRef}
    {i : Nat} (h : ¬ "://".toList <:+: r.endpoint.toList) :
    (∃ source, locate? endpoints r = some (i, source)) ↔
      ∃ e, endpoints[i]? = some e ∧ r.LeadsTo endpoints e := by
  rw [locate?, ModelRef.isAddress, if_neg (fun hc => h (Text.contains_iff.mp hc))]
  constructor
  · rintro ⟨source, hs⟩
    obtain ⟨j, hj, hij⟩ := Option.map_eq_some_iff.mp hs
    obtain ⟨rfl, -⟩ := Prod.mk.inj hij
    obtain ⟨before, e, after, listed, rfl, he, -⟩ := findIdx?_eq_some_iff_append.mp hj
    exact ⟨e, by simp [listed], .name h (by simp [listed]) (of_decide_eq_true he)⟩
  · rintro ⟨e, hi, hleads⟩
    cases hleads with
    | address _ _ isAddress => exact absurd isAddress h
    | name _ listed same =>
      have hfound : (endpoints.findIdx? (·.name = Text.trim r.endpoint)).isSome := by
        rw [List.findIdx?_isSome]
        exact List.any_eq_true.mpr ⟨e, listed, decide_eq_true same⟩
      obtain ⟨j, hj⟩ := Option.isSome_iff_exists.mp hfound
      obtain ⟨before, x, after, hes, rfl, hx, -⟩ := findIdx?_eq_some_iff_append.mp hj
      -- What the search finds first has the same name, so it is the same endpoint.
      have hbefore : endpoints[before.length]? = some x := by simp [hes]
      have hpos : i = before.length :=
        position_unique distinct hi hbefore (same.trans (of_decide_eq_true hx).symm)
      exact ⟨.name, Option.map_eq_some_iff.mpr ⟨i, hpos ▸ hj, rfl⟩⟩

/-- The position of a reference is that of the endpoint it leads to. -/
theorem locate?_iff (distinct : (endpoints.map Endpoint.name).Nodup) {r : ModelRef} {i : Nat} :
    (∃ source, locate? endpoints r = some (i, source)) ↔
      ∃ e, endpoints[i]? = some e ∧ r.LeadsTo endpoints e := by
  by_cases h : "://".toList <:+: r.endpoint.toList
  · exact locate?_iff_of_address distinct h
  · exact locate?_iff_of_name distinct h

theorem locate?_eq_none_iff (distinct : (endpoints.map Endpoint.name).Nodup) {r : ModelRef} :
    locate? endpoints r = none ↔ ∀ e, ¬ r.LeadsTo endpoints e := by
  constructor
  · intro hnone e hleads
    obtain ⟨i, hi⟩ := List.mem_iff_getElem?.mp hleads.mem
    obtain ⟨source, hs⟩ := (locate?_iff distinct).mpr ⟨e, hi, hleads⟩
    rw [hnone] at hs
    cases hs
  · intro hlost
    rw [Option.eq_none_iff_forall_ne_some]
    rintro ⟨i, source⟩ hs
    obtain ⟨e, -, hleads⟩ := (locate?_iff distinct).mp ⟨source, hs⟩
    exact hlost e hleads

/-! ### Models -/

theorem mem_firstOfPosition {i : Nat} {found : List (Nat × Basis)} {seen : List Nat} :
    (∃ source, (i, source) ∈ firstOfPosition seen found) ↔
      i ∉ seen ∧ ∃ source, (i, source) ∈ found := by
  induction found generalizing seen with
  | nil => simp [firstOfPosition]
  | cons head rest ih =>
    obtain ⟨j, basis⟩ := head
    rw [firstOfPosition]
    by_cases hj : j ∈ seen
    · rw [if_pos (List.contains_iff_mem.mpr hj), ih]
      refine and_congr_right fun hi => ?_
      have hij : i ≠ j := fun h => hi (h ▸ hj)
      simp [hij]
    · rw [if_neg (fun hc => hj (List.contains_iff_mem.mp hc))]
      simp only [List.mem_cons, Prod.mk.injEq, exists_or, ih, not_or]
      by_cases hij : i = j
      · simp [hij, hj]
      · simp [hij]

theorem mem_positionsOfType {type : String} {i : Nat} :
    i ∈ positionsOfType endpoints type ↔
      ∃ e, endpoints[i]? = some e ∧ Text.eqIgnoreCase e.type type := by
  rw [positionsOfType, List.mem_filter, Option.any_eq_true]
  constructor
  · rintro ⟨-, e, hi, same⟩
    exact ⟨e, hi, same⟩
  · rintro ⟨e, hi, same⟩
    exact ⟨List.mem_range.mpr (List.getElem?_eq_some_iff.mp hi).1, e, hi, same⟩

theorem servers_of_lost {m : Model} (lost : ∀ r ∈ m.refs, locate? endpoints r = none) :
    servers endpoints m = m.typeHint.toList.flatMap fun type =>
      (positionsOfType endpoints type).map fun i => (i, .typeHint) := by
  rw [servers, List.filterMap_eq_nil_iff.mpr lost, firstOfPosition]
  cases m.typeHint <;> simp

theorem servers_of_found {m : Model} {r : ModelRef} {p : Nat × Basis} (hr : r ∈ m.refs)
    (found : locate? endpoints r = some p) :
    servers endpoints m = firstOfPosition [] (m.refs.filterMap (locate? endpoints)) := by
  have hmem : (p.1, p.2) ∈ m.refs.filterMap (locate? endpoints) :=
    List.mem_filterMap.mpr ⟨r, hr, found⟩
  obtain ⟨source, hs⟩ := mem_firstOfPosition.mpr ⟨List.not_mem_nil, p.2, hmem⟩
  rw [servers]
  split
  · next hnil =>
    rw [hnil] at hs
    cases hs
  · rfl

/-- **The positions that serve a model** are those of the endpoints that serve it. -/
theorem mem_servers_iff (distinct : (endpoints.map Endpoint.name).Nodup) {m : Model} {i : Nat} :
    (∃ source, (i, source) ∈ servers endpoints m) ↔
      ∃ e, endpoints[i]? = some e ∧ m.ServedBy endpoints e := by
  -- The hint is only asked where no reference leads anywhere, not even to an endpoint that is down.
  by_cases lost : ∀ r ∈ m.refs, locate? endpoints r = none
  · rw [servers_of_lost lost]
    have hlost : ∀ r ∈ m.refs, ∀ e, ¬ r.LeadsTo endpoints e :=
      fun r hr => (locate?_eq_none_iff distinct).mp (lost r hr)
    simp only [List.mem_flatMap, Option.mem_toList, List.mem_map, Prod.mk.injEq]
    constructor
    · rintro ⟨source, type, hint, j, hj, rfl, -⟩
      obtain ⟨e, hi, same⟩ := mem_positionsOfType.mp hj
      exact ⟨e, hi, .typeHint hlost type hint same⟩
    · rintro ⟨e, hi, served⟩
      cases served with
      | reference r hr leads => exact absurd leads (hlost r hr e)
      | typeHint _ type hint same =>
        exact ⟨.typeHint, type, hint, i, mem_positionsOfType.mpr ⟨e, hi, same⟩, rfl, rfl⟩
  · push Not at lost
    obtain ⟨r, hr, hfound⟩ := lost
    obtain ⟨p, hp⟩ := Option.ne_none_iff_exists'.mp hfound
    rw [servers_of_found hr hp, mem_firstOfPosition]
    constructor
    · rintro ⟨-, source, hs⟩
      obtain ⟨r', hr', hlocate⟩ := List.mem_filterMap.mp hs
      obtain ⟨e, hi, leads⟩ := (locate?_iff distinct).mp ⟨source, hlocate⟩
      exact ⟨e, hi, .reference r' hr' leads⟩
    · rintro ⟨e, hi, served⟩
      cases served with
      | reference r' hr' leads =>
        obtain ⟨source, hs⟩ := (locate?_iff distinct).mpr ⟨e, hi, leads⟩
        exact ⟨List.not_mem_nil, source, List.mem_filterMap.mpr ⟨r', hr', hs⟩⟩
      | typeHint hlost =>
        rw [(locate?_eq_none_iff distinct).mpr (hlost r hr)] at hp
        cases hp

end GatewayProbe

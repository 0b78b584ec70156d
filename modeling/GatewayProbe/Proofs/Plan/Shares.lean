/-
What one endpoint gets.

All models are gone through once and offered to all their endpoints, but no endpoint's bonds depend
on those of another one. Seen from one position, each model is found there in one way or not at all,
and of the entries with one id the first is bound:

* `Model.basisAt?` — how a model is found at a position;
* `firstOfId`, `share` — the ids at a position, each once, with the way in which it was found;
* `share_eq` — these are the bonds at the position of a healthy endpoint;
* `mem_bindings_iff_share` — and its bindings.
-/
import GatewayProbe.Proofs.Plan.Agreement

namespace GatewayProbe

variable {endpoints : List Endpoint} {models : List Model} {modes : ModeTables}
  {options : AssignOptions}

/-- How a model that can chat is found at a position, if it is. -/
def Model.basisAt? (endpoints : List Endpoint) (i : Nat) (m : Model) : Option Basis :=
  if m.embeds then none else (servers endpoints m).lookup i

/-- Keeps the first entry of each id that is not among `seen`. -/
def firstOfId : List String → List (String × Basis) → List (String × Basis)
  | _, [] => []
  | seen, (id, source) :: rest =>
    if seen.contains id then firstOfId seen rest
    else (id, source) :: firstOfId (id :: seen) rest

/-- The ids that models give to a position, each with the way in which it is found. -/
def share (endpoints : List Endpoint) (models : List Model) (i : Nat) : List (String × Basis) :=
  firstOfId [] (models.filterMap fun m => (m.basisAt? endpoints i).map fun source => (m.id, source))

/-- The id and the source of a bond. -/
def Bond.entry (b : Bond) : String × Basis := (b.model, b.source)

/-! ### One model at one position -/

theorem filter_key_eq_lookup {α β : Type} [DecidableEq α] {xs : List (α × β)}
    (distinct : (xs.map Prod.fst).Nodup) (a : α) :
    xs.filter (fun x => x.1 = a) = (xs.lookup a).toList.map fun b => (a, b) := by
  induction xs with
  | nil => rfl
  | cons x xs ih =>
    obtain ⟨key, value⟩ := x
    rw [List.map_cons, List.nodup_cons] at distinct
    by_cases h : key = a
    · subst h
      have hrest : xs.filter (fun x => x.1 = key) = [] := by
        rw [List.filter_eq_nil_iff]
        intro x hx hkey
        exact distinct.1 (List.mem_map.mpr ⟨x, hx, of_decide_eq_true hkey⟩)
      rw [List.filter_cons_of_pos (by simp), hrest, List.lookup_cons_self]
      rfl
    · rw [List.filter_cons_of_neg (by simpa using h), ih distinct.2, List.lookup_cons,
        beq_false_of_ne (Ne.symm h)]

theorem nodup_firstOfPosition (seen : List Nat) (found : List (Nat × Basis)) :
    ((firstOfPosition seen found).map Prod.fst).Nodup := by
  induction found generalizing seen with
  | nil => exact List.nodup_nil
  | cons head rest ih =>
    obtain ⟨i, source⟩ := head
    rw [firstOfPosition]
    split
    · exact ih seen
    · refine List.nodup_cons.mpr ⟨fun hi => ?_, ih (i :: seen)⟩
      obtain ⟨p, hp, rfl⟩ := List.mem_map.mp hi
      -- What is kept after an entry has another position.
      exact (mem_firstOfPosition.mp ⟨p.2, hp⟩).1 List.mem_cons_self

/-- No model is found twice at one position. -/
theorem nodup_servers (m : Model) : ((servers endpoints m).map Prod.fst).Nodup := by
  by_cases lost : ∀ r ∈ m.refs, locate? endpoints r = none
  · rw [servers_of_lost lost]
    cases m.typeHint with
    | none => exact List.nodup_nil
    | some type =>
      have hpositions : (positionsOfType endpoints type).Nodup := List.nodup_range.filter _
      simpa [Function.comp_def] using hpositions
  · push Not at lost
    obtain ⟨r, hr, hfound⟩ := lost
    obtain ⟨p, hp⟩ := Option.ne_none_iff_exists'.mp hfound
    rw [servers_of_found hr hp]
    exact nodup_firstOfPosition _ _

theorem filter_offers (m : Model) (i : Nat) :
    ((offers endpoints m).filter fun b => b.position = i).map Bond.entry =
      ((servers endpoints m).lookup i).toList.map fun source => (m.id, source) := by
  have hnodup : ((servers endpoints m).map Prod.fst).Nodup := nodup_servers m
  have hkeys := congrArg (List.map fun p : Nat × Basis => (m.id, p.2))
    (filter_key_eq_lookup hnodup i)
  rw [offers, List.filter_map, List.map_map]
  rw [List.map_map] at hkeys
  exact hkeys

/-! ### All models at one position -/

/-- Adding offers to bonds adds to one position the first offers of ids that are new there. -/
theorem filter_foldl_addBond {i : Nat} (hup : isUpAt endpoints i = true) (offered acc : List Bond)
    (seen : List String) (hseen : ∀ id, id ∈ seen ↔ ∃ b ∈ acc, b.ends = (i, id)) :
    ((offered.foldl (addBond endpoints) acc).filter fun b => b.position = i).map Bond.entry =
      (acc.filter fun b => b.position = i).map Bond.entry ++
        firstOfId seen ((offered.filter fun b => b.position = i).map Bond.entry) := by
  induction offered generalizing acc seen with
  | nil => rw [List.foldl_nil, List.filter_nil, List.map_nil, firstOfId, List.append_nil]
  | cons b offered ih =>
    rw [List.foldl_cons]
    by_cases hb : b.position = i
    · have hknown : (acc.any fun c => c.ends = b.ends) = seen.contains b.model := by
        rw [Bool.eq_iff_iff, List.any_eq_true, List.contains_iff_mem, hseen, Bond.ends, hb]
        simp only [decide_eq_true_eq]
      rw [List.filter_cons_of_pos (by simpa using hb), List.map_cons]
      rw [addBond, hb, hup, Bool.true_and, hknown]
      cases hcontains : seen.contains b.model with
      | true =>
        rw [if_neg (by simp), ih acc seen hseen, Bond.entry, firstOfId, hcontains, if_pos rfl]
      | false =>
        have hseen' : ∀ id, id ∈ b.model :: seen ↔ ∃ c ∈ acc ++ [b], c.ends = (i, id) := by
          intro id
          rw [List.mem_cons, hseen, or_comm]
          simp [Bond.ends, hb, or_and_right, exists_or, eq_comm]
        rw [if_pos (by simp), ih _ _ hseen', Bond.entry, firstOfId, hcontains,
          if_neg Bool.false_ne_true, List.filter_append,
          List.filter_cons_of_pos (by simpa using hb), List.filter_nil, List.map_append,
          List.append_assoc]
        rfl
    · -- A bond at another position changes nothing here, whether it is added or not.
      have hsame : (addBond endpoints acc b).filter (fun c => c.position = i) =
          acc.filter fun c => c.position = i := by
        rw [addBond]
        split
        · rw [List.filter_append, List.filter_cons_of_neg (by simpa using hb), List.filter_nil,
            List.append_nil]
        · rfl
      have hseen' : ∀ id, id ∈ seen ↔ ∃ c ∈ addBond endpoints acc b, c.ends = (i, id) := by
        intro id
        rw [hseen, addBond]
        split
        · have hends : b.ends ≠ (i, id) := fun h => hb (congrArg Prod.fst h)
          simp [or_and_right, exists_or, hends]
        · rfl
      rw [ih _ _ hseen', hsame, List.filter_cons_of_neg (by simpa using hb)]

/-- **The bonds at a position** of a healthy endpoint are its share of all models. -/
theorem share_eq {i : Nat} (hup : isUpAt endpoints i = true) (models : List Model) :
    ((bonds endpoints models).filter fun b => b.position = i).map Bond.entry =
      share endpoints models i := by
  have hoffered : (((models.filter fun m => !m.embeds).flatMap (offers endpoints)).filter
      fun b => b.position = i).map Bond.entry =
        models.filterMap fun m =>
          (m.basisAt? endpoints i).map fun source => (m.id, source) := by
    induction models with
    | nil => rfl
    | cons m models ih =>
      cases hm : m.embeds with
      | true =>
        rw [List.filter_cons_of_neg (by simp [hm]), ih,
          List.filterMap_cons_none (by rw [Model.basisAt?, hm, if_pos rfl, Option.map_none])]
      | false =>
        rw [List.filter_cons_of_pos (by simp [hm]), List.flatMap_cons, List.filter_append,
          List.map_append, ih, filter_offers, List.filterMap_cons, Model.basisAt?, hm,
          if_neg Bool.false_ne_true]
        cases (servers endpoints m).lookup i <;> rfl
  rw [bonds, filter_foldl_addBond hup _ [] [] (by simp), hoffered]
  rfl

/-! ### Bindings -/

/-- The bindings of an assignment are the shares of the healthy endpoints. -/
theorem mem_bindings_iff_share {b : Binding} :
    b ∈ (assign endpoints models modes options).bindings ↔
      ∃ i e, endpoints[i]? = some e ∧ e.isUp = true ∧ e.name = b.endpoint ∧
        (b.model, b.source) ∈ share endpoints models i := by
  rw [mem_bindings_iff]
  constructor
  · rintro ⟨bond, hbond, e, he, rfl⟩
    have hup := isUpAt_of_mem_bonds hbond
    refine ⟨bond.position, e, he, isUpAt_eq he ▸ hup, rfl, ?_⟩
    rw [← share_eq hup]
    exact List.mem_map_of_mem (List.mem_filter.mpr ⟨hbond, decide_eq_true rfl⟩)
  · rintro ⟨i, e, he, hup, hname, hshare⟩
    rw [← share_eq (isUpAt_eq he ▸ hup)] at hshare
    obtain ⟨bond, hbond, hentry⟩ := List.mem_map.mp hshare
    obtain ⟨hbond, hpos⟩ := List.mem_filter.mp hbond
    obtain ⟨hmodel, hsource⟩ := Prod.mk.inj hentry
    refine ⟨bond, hbond, e, of_decide_eq_true hpos ▸ he, ?_⟩
    rw [hname, hmodel, hsource]

end GatewayProbe

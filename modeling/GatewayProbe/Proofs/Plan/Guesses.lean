/-
Which models of a plan are bound through a type hint only.

An id may be listed more than once, and each entry leads to endpoints in its own way. Of two entries
that an endpoint serves under one id the first is bound, in the way it was found; the second adds
nothing, however precise it is. So the plan calls an id approximate where the *first* entry that is
served there has no reference that leads there:

* `Model.RefersTo`, `Model.Serves` — an entry leads to an endpoint, and counts there for an id;
* `GuessedFirst` — the first entry that counts is one without such a reference;
* `isGuess_iff_of_mem_servers` — the way an entry was found tells whether it has such a reference;
* `guessed_iff_guessedFirst` — a bond is a guess where the first entry is;
* `approximate_iff_guessedFirst` — what a plan calls approximate, and where that is exact;
* `approximate_of_repeated` — where it is not: the precise entry comes second.
-/
import GatewayProbe.Inventory.Listing
import GatewayProbe.Proofs.Plan.Agreement

namespace GatewayProbe

variable {endpoints : List Endpoint} {models : List Model} {modes : ModeTables}
  {options : AssignOptions}

/-- A reference of the entry leads to the endpoint. -/
def Model.RefersTo (endpoints : List Endpoint) (m : Model) (e : Endpoint) : Prop :=
  ∃ r ∈ m.refs, r.LeadsTo endpoints e

/-- The entry has this id, can chat, and is served by the endpoint. -/
def Model.Serves (endpoints : List Endpoint) (e : Endpoint) (id : String) (m : Model) : Prop :=
  m.id = id ∧ m.embeds = false ∧ m.ServedBy endpoints e

/-- Of the entries that count for an id at an endpoint, the first has no reference that leads
there. -/
def GuessedFirst (endpoints : List Endpoint) (models : List Model) (e : Endpoint) (id : String) :
    Prop :=
  ∃ before m after, models = before ++ m :: after ∧ m.Serves endpoints e id ∧
    ¬ m.RefersTo endpoints e ∧ ∀ x ∈ before, ¬ x.Serves endpoints e id

/-! ### The way an entry was found -/

theorem mem_of_mem_firstOfPosition {p : Nat × Basis} {found : List (Nat × Basis)} {seen : List Nat}
    (h : p ∈ firstOfPosition seen found) : p ∈ found := by
  induction found generalizing seen with
  | nil => exact h
  | cons head rest ih =>
    rw [firstOfPosition] at h
    split at h
    · exact List.mem_cons_of_mem _ (ih h)
    · rcases List.mem_cons.mp h with rfl | h
      · exact List.mem_cons_self
      · exact List.mem_cons_of_mem _ (ih h)

theorem isGuess_of_locate? {r : ModelRef} {p : Nat × Basis} (h : locate? endpoints r = some p) :
    p.2.isGuess = false := by
  rw [locate?] at h
  split at h
  · obtain ⟨i, -, rfl⟩ := Option.map_eq_some_iff.mp h
    rfl
  · obtain ⟨i, -, rfl⟩ := Option.map_eq_some_iff.mp h
    rfl

/-- An entry is found by a guess exactly where none of its references leads to the endpoint. -/
theorem isGuess_iff_of_mem_servers (distinct : (endpoints.map Endpoint.name).Nodup) {m : Model}
    {i : Nat} {e : Endpoint} {source : Basis} (hi : endpoints[i]? = some e)
    (h : (i, source) ∈ servers endpoints m) :
    source.isGuess = true ↔ ¬ m.RefersTo endpoints e := by
  by_cases lost : ∀ r ∈ m.refs, locate? endpoints r = none
  · -- The hint was asked: no reference leads anywhere.
    rw [servers_of_lost lost] at h
    obtain ⟨type, -, h⟩ := List.mem_flatMap.mp h
    obtain ⟨j, -, hj⟩ := List.mem_map.mp h
    obtain ⟨-, rfl⟩ := Prod.mk.inj hj
    have hlost : ¬ m.RefersTo endpoints e := by
      rintro ⟨r, hr, leads⟩
      exact (locate?_eq_none_iff distinct).mp (lost r hr) e leads
    exact ⟨fun _ => hlost, fun _ => rfl⟩
  · push Not at lost
    obtain ⟨r, hr, hfound⟩ := lost
    obtain ⟨p, hp⟩ := Option.ne_none_iff_exists'.mp hfound
    rw [servers_of_found hr hp] at h
    obtain ⟨r', hr', hlocate⟩ := List.mem_filterMap.mp (mem_of_mem_firstOfPosition h)
    have hrefers : m.RefersTo endpoints e := by
      obtain ⟨x, hx, leads⟩ := (locate?_iff distinct).mp ⟨source, hlocate⟩
      obtain rfl : e = x := Option.some_inj.mp (hi.symm.trans hx)
      exact ⟨r', hr', leads⟩
    rw [isGuess_of_locate? hlocate]
    exact ⟨fun hguess => absurd hguess Bool.false_ne_true, fun hno => absurd hrefers hno⟩

/-! ### The first entry that counts -/

/-- The bond that an entry offers to the endpoint at a position, for an id. -/
def Model.offer? (endpoints : List Endpoint) (i : Nat) (id : String) (m : Model) : Option Bond :=
  if m.embeds then none else (offers endpoints m).find? (·.ends = (i, id))

theorem Model.offer?_eq_some (distinct : (endpoints.map Endpoint.name).Nodup) {i : Nat}
    {e : Endpoint} (hi : endpoints[i]? = some e) {id : String} {m : Model} {b : Bond}
    (h : m.offer? endpoints i id = some b) :
    m.Serves endpoints e id ∧ (b.source.isGuess = true ↔ ¬ m.RefersTo endpoints e) := by
  rw [offer?] at h
  split at h
  · cases h
  · next hchat =>
    have hends : b.ends = (i, id) := by simpa using List.find?_some h
    obtain ⟨⟨j, source⟩, hs, rfl⟩ := List.mem_map.mp (List.mem_of_find?_eq_some h)
    obtain ⟨rfl, rfl⟩ := Prod.mk.inj hends
    obtain ⟨x, hx, served⟩ := (mem_servers_iff distinct).mp ⟨source, hs⟩
    obtain rfl : e = x := Option.some_inj.mp (hi.symm.trans hx)
    exact ⟨⟨rfl, Bool.eq_false_iff.mpr hchat, served⟩, isGuess_iff_of_mem_servers distinct hi hs⟩

theorem Model.offer?_eq_none_iff (distinct : (endpoints.map Endpoint.name).Nodup) {i : Nat}
    {e : Endpoint} (hi : endpoints[i]? = some e) {id : String} {m : Model} :
    m.offer? endpoints i id = none ↔ ¬ m.Serves endpoints e id := by
  constructor
  · rintro hnone ⟨rfl, hchat, served⟩
    obtain ⟨source, hs⟩ := (mem_servers_iff distinct).mpr ⟨e, hi, served⟩
    rw [offer?, if_neg (by simp [hchat]), List.find?_eq_none] at hnone
    exact hnone ⟨i, m.id, source⟩ (List.mem_map_of_mem hs) (decide_eq_true rfl)
  · intro hno
    rw [Option.eq_none_iff_forall_ne_some]
    intro b hb
    exact hno (offer?_eq_some distinct hi hb).1

/-- The bond to a healthy endpoint is what the first entry offers that offers one. -/
theorem find?_bonds {i : Nat} {id : String} (hup : isUpAt endpoints i = true) :
    (bonds endpoints models).find? (·.ends = (i, id)) =
      models.findSome? (Model.offer? endpoints i id) := by
  have hoffer (m : Model) : m.offer? endpoints i id =
      ((if m.embeds then [] else offers endpoints m).find? (·.ends = (i, id))) := by
    rw [Model.offer?]
    split <;> rfl
  have hflat : (models.filter fun m => !m.embeds).flatMap (offers endpoints) =
      models.flatMap fun m => if m.embeds then [] else offers endpoints m := by
    induction models with
    | nil => rfl
    | cons m models ih =>
      cases hm : m.embeds <;> simp [hm, ih]
  have hsame : (fun b : Bond => decide (isUpAt endpoints b.position = true ∧
      decide (b.ends = (i, id)) = true)) = fun b => decide (b.ends = (i, id)) := by
    funext b
    by_cases hb : b.ends = (i, id)
    · have hpos : b.position = i := congrArg Prod.fst hb
      simp [hb, hpos, hup]
    · simp [hb]
  rw [bonds, find?_foldl_addBond, List.find?_nil, Option.none_or, List.find?_filter, hsame, hflat,
    List.find?_flatMap]
  exact congrArg (models.findSome? ·) (funext fun m => (hoffer m).symm)

theorem find?_bonds_eq_some_iff {ends : Nat × String} {b : Bond} :
    (bonds endpoints models).find? (·.ends = ends) = some b ↔
      b ∈ bonds endpoints models ∧ b.ends = ends := by
  constructor
  · intro h
    exact ⟨List.mem_of_find?_eq_some h, by simpa using List.find?_some h⟩
  · rintro ⟨hb, hends⟩
    have hsome : ((bonds endpoints models).find? (·.ends = ends)).isSome :=
      List.find?_isSome.mpr ⟨b, hb, by simpa using hends⟩
    obtain ⟨c, hc⟩ := Option.isSome_iff_exists.mp hsome
    have hcends : c.ends = ends := by simpa using List.find?_some hc
    -- No two bonds have the same ends.
    obtain rfl := List.inj_on_of_nodup_map (nodup_bonds endpoints models)
      (List.mem_of_find?_eq_some hc) hb (hcends.trans hends.symm)
    exact hc

/-- An id is bound to a healthy endpoint by a guess where the first entry that counts is one. -/
theorem guessed_iff_guessedFirst (distinct : (endpoints.map Endpoint.name).Nodup) {i : Nat}
    {e : Endpoint} (hi : endpoints[i]? = some e) (hup : e.isUp = true) {id : String} :
    (∃ b ∈ bonds endpoints models, b.ends = (i, id) ∧ b.source.isGuess = true) ↔
      GuessedFirst endpoints models e id := by
  have hfind : (bonds endpoints models).find? (·.ends = (i, id)) =
      models.findSome? (Model.offer? endpoints i id) :=
    find?_bonds ((isUpAt_eq hi).trans hup)
  constructor
  · rintro ⟨b, hb, hends, hguess⟩
    have hfirst := find?_bonds_eq_some_iff.mpr ⟨hb, hends⟩
    rw [hfind] at hfirst
    obtain ⟨before, m, after, hmodels, hm, hbefore⟩ := List.findSome?_eq_some_iff.mp hfirst
    obtain ⟨hserves, hiff⟩ := Model.offer?_eq_some distinct hi hm
    exact ⟨before, m, after, hmodels, hserves, hiff.mp hguess, fun x hx =>
      (Model.offer?_eq_none_iff distinct hi).mp (hbefore x hx)⟩
  · rintro ⟨before, m, after, hmodels, hserves, hno, hbefore⟩
    have hsome : m.offer? endpoints i id ≠ none := fun hnone =>
      (Model.offer?_eq_none_iff distinct hi).mp hnone hserves
    obtain ⟨b, hm⟩ := Option.ne_none_iff_exists'.mp hsome
    have hfirst : models.findSome? (Model.offer? endpoints i id) = some b :=
      List.findSome?_eq_some_iff.mpr ⟨before, m, after, hmodels, hm, fun x hx =>
        (Model.offer?_eq_none_iff distinct hi).mpr (hbefore x hx)⟩
    obtain ⟨hb, hends⟩ := find?_bonds_eq_some_iff.mp (hfind.trans hfirst)
    exact ⟨b, hb, hends, (Model.offer?_eq_some distinct hi hm).2.mpr hno⟩

/-! ### What a plan calls approximate -/

theorem exists_shown (distinct : (endpoints.map Endpoint.name).Nodup) {e : Endpoint}
    (he : e ∈ endpoints) {p : Plan} (hp : p ∈ (assign endpoints models modes options).backends)
    (hname : p.name = e.name) :
    e.isUp = true ∧ p.Shows (assign endpoints models modes options).bindings e := by
  obtain ⟨hlength, hshow⟩ :=
    List.forall₂_iff_get.mp (@backends_show endpoints models modes options distinct)
  obtain ⟨j, hj, rfl⟩ := List.getElem_of_mem hp
  have hshown := hshow j (hlength ▸ hj) hj
  have hkept := List.mem_filter.mp (List.getElem_mem (hlength ▸ hj))
  -- The plan is that of the endpoint at its own place, which has the same name.
  have hsame := List.inj_on_of_nodup_map distinct hkept.1 he (hshown.name.symm.trans hname)
  rw [List.get_eq_getElem, List.get_eq_getElem, hsame] at hshown
  rw [hsame, Endpoint.isPlanned, Bool.and_eq_true] at hkept
  exact ⟨hkept.2.1, hshown⟩

theorem mem_approximate_iff (distinct : (endpoints.map Endpoint.name).Nodup) {e : Endpoint}
    (he : e ∈ endpoints) {p : Plan} (hp : p ∈ (assign endpoints models modes options).backends)
    (hname : p.name = e.name) {id : String} :
    id ∈ p.approximate ↔ GuessedFirst endpoints models e id := by
  obtain ⟨hup, hshown⟩ := exists_shown distinct he hp hname
  obtain ⟨i, hi⟩ := List.mem_iff_getElem?.mp he
  rw [← guessed_iff_guessedFirst distinct hi hup, hshown.approximate, List.mem_map]
  constructor
  · rintro ⟨b, hb, rfl⟩
    obtain ⟨hb, hguess⟩ := List.mem_filter.mp hb
    obtain ⟨hbname, hsource⟩ := of_decide_eq_true hguess
    obtain ⟨bond, hbond, x, hx, rfl⟩ := mem_bindings_iff.mp hb
    have hpos : bond.position = i := position_unique distinct hx hi hbname
    exact ⟨bond, hbond, Prod.ext hpos rfl, Basis.isGuess_iff.mpr hsource⟩
  · rintro ⟨bond, hbond, hends, hguess⟩
    obtain ⟨rfl, rfl⟩ := Prod.mk.inj hends
    refine ⟨_, List.mem_filter.mpr ⟨mem_bindings_iff.mpr ⟨bond, hbond, e, hi, rfl⟩, ?_⟩, rfl⟩
    exact decide_eq_true ⟨rfl, Basis.isGuess_iff.mp hguess⟩

/-- Some entry of the id that can chat has a reference that leads to the endpoint. -/
def ReferredTo (endpoints : List Endpoint) (models : List Model) (e : Endpoint) (id : String) :
    Prop :=
  ∃ m ∈ models, m.id = id ∧ m.embeds = false ∧ m.RefersTo endpoints e

/-- The first entry is a guess where some entry counts and none has a reference that leads to the
endpoint. -/
theorem guessedFirst_of_not_referredTo {e : Endpoint} {id : String} {m : Model}
    (hm : m ∈ models) (hserves : m.Serves endpoints e id)
    (hno : ¬ ReferredTo endpoints models e id) : GuessedFirst endpoints models e id := by
  classical
  have hsome : (models.find? fun x => decide (x.Serves endpoints e id)).isSome :=
    List.find?_isSome.mpr ⟨m, hm, decide_eq_true hserves⟩
  obtain ⟨x, hx⟩ := Option.isSome_iff_exists.mp hsome
  obtain ⟨hfirst, before, after, hmodels, hbefore⟩ := List.find?_eq_some_iff_append.mp hx
  have hx : x.Serves endpoints e id := of_decide_eq_true hfirst
  refine ⟨before, x, after, hmodels, hx, fun hrefers => hno ?_, fun y hy => ?_⟩
  · exact ⟨x, by simp [hmodels], hx.1, hx.2.1, hrefers⟩
  · simpa using hbefore y hy

/-- **What a plan calls approximate.** Where names are distinct, an id is approximate in the plan of
an endpoint exactly where the first entry that counts for it there has no reference that leads
there. So the plan tells exactly which ids are bound to the endpoint by no reference at all, unless
an entry with such a reference comes after a first one without: then the id is still called
approximate. -/
theorem approximate_iff_guessedFirst (endpoints : List Endpoint) (models : List Model)
    (modes : ModeTables) (options : AssignOptions)
    (distinct : (endpoints.map Endpoint.name).Nodup) :
    let parts := assign endpoints models modes options
    ∀ e ∈ endpoints, ∀ p ∈ parts.backends, p.name = e.name → ∀ id,
      (id ∈ p.approximate ↔ GuessedFirst endpoints models e id) ∧
      ((id ∈ p.approximate ↔ (∃ b ∈ parts.bindings, b.endpoint = e.name ∧ b.model = id) ∧
          ¬ ReferredTo endpoints models e id) ↔
        ¬ (GuessedFirst endpoints models e id ∧ ReferredTo endpoints models e id)) := by
  intro parts e he p hp hname id
  have happroximate : id ∈ p.approximate ↔ GuessedFirst endpoints models e id :=
    mem_approximate_iff distinct he hp hname
  refine ⟨happroximate, ?_⟩
  obtain ⟨i, hi⟩ := List.mem_iff_getElem?.mp he
  have hup := (exists_shown distinct he hp hname).1
  have hbound : (∃ b ∈ parts.bindings, b.endpoint = e.name ∧ b.model = id) ↔
      ∃ m ∈ models, m.Serves endpoints e id := by
    rw [mem_bindings_iff_bonds distinct hi, mem_bonds_iff, isUpAt_eq hi]
    constructor
    · rintro ⟨-, m, hm, hid, hchat, hs⟩
      obtain ⟨x, hx, served⟩ := (mem_servers_iff distinct).mp hs
      obtain rfl : e = x := Option.some_inj.mp (hi.symm.trans hx)
      exact ⟨m, hm, hid, hchat, served⟩
    · rintro ⟨m, hm, hid, hchat, served⟩
      exact ⟨hup, m, hm, hid, hchat, (mem_servers_iff distinct).mpr ⟨e, hi, served⟩⟩
  rw [happroximate, hbound]
  constructor
  · rintro hexact ⟨hguessed, hreferred⟩
    exact (hexact.mp hguessed).2 hreferred
  · intro hnot
    constructor
    · intro hguessed
      have ⟨before, m, after, hmodels, hserves, _⟩ := hguessed
      exact ⟨⟨m, by simp [hmodels], hserves⟩, fun hreferred => hnot ⟨hguessed, hreferred⟩⟩
    · rintro ⟨⟨m, hm, hserves⟩, hno⟩
      exact guessedFirst_of_not_referredTo hm hserves hno

/-- A healthy endpoint. -/
def loneEndpoint : Endpoint := { name := "a", type := "ollama", url := some "http://a:1" }

/-- Two entries of one id: the first has a hint only, the second names the endpoint. -/
def repeatedModels : List Model :=
  [{ id := "dup", typeHint := some "ollama" }, { id := "dup", refs := [{ endpoint := "a" }] }]

theorem referredTo_repeated : ReferredTo [loneEndpoint] repeatedModels loneEndpoint "dup" := by
  refine ⟨{ id := "dup", refs := [{ endpoint := "a" }] }, by simp [repeatedModels], rfl,
    by decide, { endpoint := "a" }, List.mem_singleton_self _, ?_⟩
  exact .name (fun h => absurd (Text.contains_iff.mpr h) (by decide)) List.mem_cons_self
    (by decide)

theorem approximate_iff_guessedFirst_repeated :
    ([loneEndpoint].map Endpoint.name).Nodup ∧
      ∃ p ∈ (assign [loneEndpoint] repeatedModels .standard {}).backends,
        p.name = loneEndpoint.name ∧ "dup" ∈ p.approximate := by
  have distinct : ([loneEndpoint].map Endpoint.name).Nodup := by decide
  have hfirst : GuessedFirst [loneEndpoint] repeatedModels loneEndpoint "dup" := by
    refine ⟨[], { id := "dup", typeHint := some "ollama" }, _, rfl, ⟨rfl, by decide, ?_⟩, ?_,
      by simp⟩
    · exact .typeHint (by simp) "ollama" rfl (by decide)
    · rintro ⟨r, hr, -⟩
      cases hr
  obtain ⟨p, hp⟩ : ∃ p, (assign [loneEndpoint] repeatedModels .standard {}).backends = [p] :=
    ⟨_, rfl⟩
  have hmem : p ∈ (assign [loneEndpoint] repeatedModels .standard {}).backends :=
    hp ▸ List.mem_cons_self
  have hname : p.name = loneEndpoint.name := by
    obtain rfl := List.singleton_inj.mp hp
    rfl
  exact ⟨distinct, p, hmem, hname, (approximate_iff_guessedFirst [loneEndpoint] repeatedModels
    .standard {} distinct loneEndpoint List.mem_cons_self p hmem hname "dup").1.mpr hfirst⟩

/-- The id is bound to the endpoint by a reference of its second entry and called approximate all
the same. Both entries are what the gateway's list of models may say. -/
theorem approximate_of_repeated :
    readUnifiedPage ("\x7b\"data\":[\x7b\"id\":\"dup\",\"type\":\"ollama\"\x7d," ++
      "\x7b\"id\":\"dup\",\"endpoints\":[\"a\"]\x7d]\x7d") = .ok repeatedModels ∧
    ∃ p ∈ (assign [loneEndpoint] repeatedModels .standard {}).backends,
      p.name = loneEndpoint.name ∧
      ¬ ("dup" ∈ p.approximate ↔
        (∃ b ∈ (assign [loneEndpoint] repeatedModels .standard {}).bindings,
          b.endpoint = loneEndpoint.name ∧ b.model = "dup") ∧
        ¬ ReferredTo [loneEndpoint] repeatedModels loneEndpoint "dup") := by
  refine ⟨by decide +kernel, _, List.mem_cons_self, rfl, fun hexact => ?_⟩
  exact (hexact.mp (by decide)).2 referredTo_repeated

end GatewayProbe

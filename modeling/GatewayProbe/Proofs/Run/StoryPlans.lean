/-
The plan of a run through the prefixes of providers.

A choice covers some models, and each of them is asked through those of the given providers that
list it. A sample is made of the first few models of each provider, but a model of it is asked
through the first provider that lists it anywhere, which may be another one:

* `listers`, `Listed`, `IsFirstLister` — the providers that list a model;
* `mem_planStories`, `map_fst_planStories` — a plan is its models, each with its providers;
* `nodup_storyPairs` — when no pair of a plan is repeated;
* `planStories_covers` — the plans of all choices.
-/
import GatewayProbe.Proofs.Run.StoryRecords
import GatewayProbe.Proofs.Text.Ascending

namespace GatewayProbe

/-! ### The providers of a model -/

section Listers

variable (listing : ProviderListing String) (providers : List Provider)

/-- Those of the given providers that list a model, in their order. -/
def listers (id : String) : List Provider := providers.filter fun p => id ∈ listing.models p

/-- Some of the given providers lists the model. -/
def Listed (id : String) : Prop := ∃ p ∈ providers, id ∈ listing.models p

/-- The provider lists the model, and none that is given before it does. -/
def IsFirstLister (id : String) (p : Provider) : Prop :=
  ∃ before after, providers = before ++ p :: after ∧ id ∈ listing.models p ∧
    ∀ q ∈ before, id ∉ listing.models q

instance (id : String) : Decidable (Listed listing providers id) :=
  inferInstanceAs (Decidable (∃ p ∈ providers, id ∈ listing.models p))

variable {listing providers} {id : String}

theorem listers_ne_nil_iff : listers listing providers id ≠ [] ↔ Listed listing providers id := by
  rw [listers, Ne, List.filter_eq_nil_iff, Listed]
  push Not
  simp only [decide_eq_true_eq]

/-- Where a model is listed, the first of its providers is there. -/
theorem exists_take_listers (h : Listed listing providers id) :
    ∃ p, (listers listing providers id).take 1 = [p] ∧ IsFirstLister listing providers id p := by
  cases hfirst : (listers listing providers id).head? with
  | none => exact absurd (List.head?_eq_none_iff.mp hfirst) (listers_ne_nil_iff.mpr h)
  | some p =>
    refine ⟨p, by rw [List.take_one, hfirst, Option.toList_some], ?_⟩
    -- The first of the providers that list the model is the first one found to list it.
    rw [listers, List.head?_filter, List.find?_eq_some_iff_append] at hfirst
    obtain ⟨hp, before, after, hproviders, hbefore⟩ := hfirst
    refine ⟨before, after, hproviders, of_decide_eq_true hp, fun q hq => ?_⟩
    simpa using hbefore q hq

end Listers

/-! ### Plans -/

section Plans

variable {listing : ProviderListing String} {providers : List Provider} {choice : StoryModels}

theorem map_fst_planStories :
    (planStories listing providers choice).map Prod.fst =
      plannedModels listing providers choice := by
  rw [planStories, List.map_map]
  exact List.map_id _

theorem mem_planStories {m : String × List Provider} :
    m ∈ planStories listing providers choice ↔
      m.1 ∈ plannedModels listing providers choice ∧
        m.2 = servingProviders listing providers choice m.1 := by
  rw [planStories, List.mem_map]
  constructor
  · rintro ⟨id, hid, rfl⟩
    exact ⟨hid, rfl⟩
  · rintro ⟨hid, hserving⟩
    exact ⟨m.1, hid, Prod.ext rfl hserving.symm⟩

theorem servingProviders_sample {id : String} :
    servingProviders listing providers .sample id = (listers listing providers id).take 1 := by
  rw [servingProviders, if_pos rfl, listers]
  simp only [List.contains_eq_mem]

theorem servingProviders_of_ne (h : choice ≠ .sample) {id : String} :
    servingProviders listing providers choice id = listers listing providers id := by
  rw [servingProviders, if_neg h, listers]
  simp only [List.contains_eq_mem]

theorem ascending_sample :
    Ascending (plannedModels listing providers .sample)
      fun id => ∃ p ∈ providers, id ∈ (listing.models p).take 3 :=
  ascending_ordered fun _ => List.mem_flatMap

/-- All models that are listed. -/
theorem ascending_listed :
    Ascending (Text.ordered (providers.flatMap listing.models)) (Listed listing providers) :=
  ascending_ordered fun _ => List.mem_flatMap

/-- The preferred models are those that are listed, or all that are listed. -/
theorem plannedModels_preferred :
    plannedModels listing providers .preferred =
      if (favourites.filter fun id => Listed listing providers id).isEmpty then
        Text.ordered (providers.flatMap listing.models)
      else favourites.filter fun id => Listed listing providers id := by
  have hlisted : (Text.ordered (providers.flatMap listing.models)).contains =
      fun id => decide (Listed listing providers id) := by
    funext id
    rw [List.contains_eq_mem, decide_eq_decide]
    exact ascending_listed.2 id
  rw [plannedModels, hlisted]

theorem listed_of_preferred {id : String} (h : id ∈ plannedModels listing providers .preferred) :
    Listed listing providers id := by
  rw [plannedModels_preferred] at h
  split at h
  · exact (ascending_listed.2 id).mp h
  · exact of_decide_eq_true (List.mem_filter.mp h).2

theorem listed_of_sample {id : String} (h : id ∈ plannedModels listing providers .sample) :
    Listed listing providers id := by
  obtain ⟨p, hp, hid⟩ := (ascending_sample.2 id).mp h
  exact ⟨p, hp, List.mem_of_mem_take hid⟩

theorem nodup_preferred : (plannedModels listing providers .preferred).Nodup := by
  rw [plannedModels_preferred]
  split
  · exact Text.nodup_ordered _
  · have hfavourites : favourites.Nodup := by decide
    exact hfavourites.filter _

end Plans

/-! ### Pairs -/

/-- No pair is repeated where neither a model nor a provider of a model is. -/
theorem nodup_storyPairs {plan : List (String × List Provider)}
    (models : (plan.map Prod.fst).Nodup) (providers : ∀ m ∈ plan, m.2.Nodup) :
    (storyPairs plan).Nodup := by
  rw [storyPairs, List.nodup_flatMap]
  refine ⟨fun m hm => (providers m hm).map fun _ _ => congrArg Prod.snd,
    (List.pairwise_map.mp models).imp fun {m n} hne => ?_⟩
  refine List.disjoint_left.mpr fun pair hm hn => ?_
  obtain ⟨p, -, rfl⟩ := List.mem_map.mp hm
  obtain ⟨q, -, hpair⟩ := List.mem_map.mp hn
  exact hne (congrArg Prod.fst hpair).symm

/-- **The plan of a run.** An explicit choice plans the models it names, in their order, each with
the providers that list it. A sample plans the first three models of all providers, in ascending
order, each with the first provider that lists it, which need not be the one that it is from. The
preferred models are planned in the order of preference, or else all that are listed in ascending
order, each with the providers that list it, of which there are some. No pair of a sample is
repeated, and none of the preferred models where no provider is. -/
theorem planStories_covers (listing : ProviderListing String) (providers : List Provider) :
    let plan := planStories listing providers
    let preferred := favourites.filter fun id => Listed listing providers id
    (∀ ids, (plan (.explicit ids)).map Prod.fst = ids ∧
      ∀ m ∈ plan (.explicit ids), m.2 = listers listing providers m.1) ∧
    (Ascending ((plan .sample).map Prod.fst)
        (fun id => ∃ p ∈ providers, id ∈ (listing.models p).take 3) ∧
      (∀ m ∈ plan .sample, ∃ p, m.2 = [p] ∧ IsFirstLister listing providers m.1 p) ∧
      (storyPairs (plan .sample)).Nodup) ∧
    (preferred ≠ [] → (plan .preferred).map Prod.fst = preferred) ∧
    (preferred = [] → Ascending ((plan .preferred).map Prod.fst) (Listed listing providers)) ∧
    (∀ m ∈ plan .preferred, m.2 = listers listing providers m.1 ∧ m.2 ≠ []) ∧
    (providers.Nodup → (storyPairs (plan .preferred)).Nodup) := by
  intro plan preferred
  refine ⟨fun ids => ⟨map_fst_planStories, fun m hm => ?_⟩, ?_, ?_⟩
  · exact (mem_planStories.mp hm).2.trans (servingProviders_of_ne StoryModels.noConfusion)
  · have hserving : ∀ m ∈ plan .sample,
        ∃ p, m.2 = [p] ∧ IsFirstLister listing providers m.1 p := by
      intro m hm
      -- The provider that a model of the sample is from lists it, so some provider does.
      obtain ⟨hplanned, hproviders⟩ := mem_planStories.mp hm
      rw [hproviders, servingProviders_sample]
      exact exists_take_listers (listed_of_sample hplanned)
    refine ⟨map_fst_planStories ▸ ascending_sample, hserving, nodup_storyPairs ?_ fun m hm => ?_⟩
    · rw [map_fst_planStories]
      exact Text.nodup_ordered _
    · obtain ⟨p, hp, -⟩ := hserving m hm
      exact hp ▸ List.nodup_singleton p
  · have hserving : ∀ m ∈ planStories listing providers .preferred,
        m.2 = listers listing providers m.1 ∧ m.2 ≠ [] := by
      intro m hm
      obtain ⟨hplanned, hproviders⟩ := mem_planStories.mp hm
      rw [servingProviders_of_ne StoryModels.noConfusion] at hproviders
      exact ⟨hproviders, hproviders ▸ listers_ne_nil_iff.mpr (listed_of_preferred hplanned)⟩
    refine ⟨fun hsome => ?_, fun hnone => ?_, hserving, fun once => nodup_storyPairs ?_ ?_⟩
    · rw [map_fst_planStories, plannedModels_preferred, if_neg (by rwa [List.isEmpty_iff])]
    · rw [map_fst_planStories, plannedModels_preferred, if_pos (by rwa [List.isEmpty_iff])]
      exact ascending_listed
    · rw [map_fst_planStories]
      exact nodup_preferred
    · exact fun m hm => (hserving m hm).1 ▸ once.filter _

/-- The first provider lists `d` last, after an id that is there twice; the second one lists `d`
alone. -/
def overlappingListing : ProviderListing String :=
  [(.openAi, ["b", "b", "a", "d"]), (.ollama, ["d"])]

/-- The model `d` is one of the sample for the second provider and is asked through the first. -/
theorem planStories_covers_overlapping :
    planStories overlappingListing [.openAi, .ollama] .sample =
        [("a", [.openAi]), ("b", [.openAi]), ("d", [.openAi])] ∧
      IsFirstLister overlappingListing [.openAi, .ollama] "d" .openAi ∧
      (storyPairs (planStories overlappingListing [.openAi, .ollama] .preferred)).Nodup := by
  have hplan : planStories overlappingListing [.openAi, .ollama] .sample =
      [("a", [.openAi]), ("b", [.openAi]), ("d", [.openAi])] := by decide +kernel
  obtain ⟨-, ⟨-, hfirst, -⟩, -, -, -, hnodup⟩ :=
    planStories_covers overlappingListing [.openAi, .ollama]
  obtain ⟨p, hp, hlister⟩ := hfirst ("d", [.openAi]) (by rw [hplan]; decide)
  cases hp
  exact ⟨hplan, hlister, hnodup (by decide)⟩

end GatewayProbe

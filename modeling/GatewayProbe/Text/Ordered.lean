/-
Texts in ascending order of their code points, each once.

* `insertOnce` — puts a text in its place, unless it is there;
* `ordered` — the distinct texts of a list in order;
* `mem_ordered`, `pairwise_ordered`, `nodup_ordered` — these are the texts of the list, each once.
-/

namespace GatewayProbe.Text

/-- Puts a text in its place among texts in ascending order, unless it is there. -/
def insertOnce (s : String) : List String → List String
  | [] => [s]
  | t :: rest =>
    if s = t then t :: rest
    else if s < t then s :: t :: rest
    else t :: insertOnce s rest

theorem mem_insertOnce {s t : String} {texts : List String} :
    t ∈ insertOnce s texts ↔ t = s ∨ t ∈ texts := by
  fun_induction insertOnce s texts with
  | case1 => rw [List.mem_singleton, List.mem_nil_iff, or_false]
  | case2 rest => rw [List.mem_cons, or_self_left]
  | case3 u rest hne hlt => rw [List.mem_cons]
  | case4 u rest hne hlt ih => rw [List.mem_cons, ih, List.mem_cons, or_left_comm]

/-- The distinct texts of a list, in ascending order. -/
def ordered (texts : List String) : List String := texts.foldl (fun acc s => insertOnce s acc) []

theorem mem_foldl_insertOnce {t : String} {texts acc : List String} :
    t ∈ texts.foldl (fun acc s => insertOnce s acc) acc ↔ t ∈ acc ∨ t ∈ texts := by
  induction texts generalizing acc with
  | nil => rw [List.foldl_nil, List.mem_nil_iff, or_false]
  | cons s texts ih => rw [List.foldl_cons, ih, mem_insertOnce, List.mem_cons, or_assoc,
      or_left_comm]

/-- No text is lost and none is added. -/
theorem mem_ordered {t : String} {texts : List String} : t ∈ ordered texts ↔ t ∈ texts := by
  rw [ordered, mem_foldl_insertOnce, List.mem_nil_iff, false_or]

theorem pairwise_insertOnce {s : String} {texts : List String} (h : texts.Pairwise (· < ·)) :
    (insertOnce s texts).Pairwise (· < ·) := by
  fun_induction insertOnce s texts with
  | case1 => exact List.pairwise_singleton _ _
  | case2 rest => exact h
  | case3 t rest hne hlt =>
    refine List.pairwise_cons.mpr ⟨fun u hu => ?_, h⟩
    rcases List.mem_cons.mp hu with rfl | hu
    · exact hlt
    · exact String.lt_trans hlt (List.rel_of_pairwise_cons h hu)
  | case4 t rest hne hnlt ih =>
    obtain ⟨hfirst, hrest⟩ := List.pairwise_cons.mp h
    refine List.pairwise_cons.mpr ⟨fun u hu => ?_, ih hrest⟩
    rcases mem_insertOnce.mp hu with rfl | hu
    · exact Std.lt_of_le_of_ne hnlt (Ne.symm hne)
    · exact hfirst u hu

/-- The texts are in ascending order. -/
theorem pairwise_ordered (texts : List String) : (ordered texts).Pairwise (· < ·) := by
  have hfold : ∀ acc : List String, acc.Pairwise (· < ·) →
      (texts.foldl (fun acc s => insertOnce s acc) acc).Pairwise (· < ·) := by
    induction texts with
    | nil => exact fun _ h => h
    | cons s texts ih => exact fun acc h => ih _ (pairwise_insertOnce h)
  exact hfold [] List.Pairwise.nil

/-- No text is there twice. -/
theorem nodup_ordered (texts : List String) : (ordered texts).Nodup := by
  refine (pairwise_ordered texts).imp ?_
  rintro s t hlt rfl
  exact String.lt_irrefl s hlt

end GatewayProbe.Text

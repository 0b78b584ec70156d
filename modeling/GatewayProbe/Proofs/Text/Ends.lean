/-
Texts that differ because their ends do.

Names are made of a part that anyone may choose and an end that the program adds. Whatever the first
part is, two names differ where neither end is an end of the other.

* `Apart` — neither text ends with the other;
* `Apart.ne` — texts with ends that are apart differ;
* `nodup_append_of_apart` — two lists of distinct texts with such ends have no text in common.
-/

namespace GatewayProbe.Text

/-- Neither text ends with the other. -/
def Apart (s t : String) : Prop := ¬s.toList <:+ t.toList ∧ ¬t.toList <:+ s.toList

instance (s t : String) : Decidable (Apart s t) := inferInstanceAs (Decidable (_ ∧ _))

theorem suffix_append (front last : String) : last.toList <:+ (front ++ last).toList := by
  rw [String.toList_append]
  exact List.suffix_append _ _

theorem Apart.ne {s t x y : String} (h : Apart s t) (hx : s.toList <:+ x.toList)
    (hy : t.toList <:+ y.toList) : x ≠ y := by
  rintro rfl
  rcases List.suffix_or_suffix_of_suffix hx hy with hle | hle
  · exact h.1 hle
  · exact h.2 hle

/-- Distinct texts with ends of one kind and distinct texts with ends of another are all
distinct. -/
theorem nodup_append_of_apart {ends others xs ys : List String}
    (apart : ∀ s ∈ ends, ∀ t ∈ others, Apart s t) (hxs : xs.Nodup) (hys : ys.Nodup)
    (ends_xs : ∀ x ∈ xs, ∃ s ∈ ends, s.toList <:+ x.toList)
    (ends_ys : ∀ y ∈ ys, ∃ t ∈ others, t.toList <:+ y.toList) : (xs ++ ys).Nodup := by
  refine List.nodup_append.mpr ⟨hxs, hys, fun x hx y hy => ?_⟩
  obtain ⟨s, hs, hsx⟩ := ends_xs x hx
  obtain ⟨t, ht, hty⟩ := ends_ys y hy
  exact (apart s hs t ht).ne hsx hty

end GatewayProbe.Text

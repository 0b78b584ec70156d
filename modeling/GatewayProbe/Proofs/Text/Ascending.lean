/-
Texts in ascending order.

Lists of ids are put in order and freed of repetitions before anything is chosen from them. What is
left is known by which texts there are:

* `Ascending` — the texts with a property, each once and in ascending order;
* `ascending_ordered` — what ordering leaves of a list;
* `Ascending.eq` — the property decides the list;
* `Ascending.head?_eq_some_iff` — its first text is the least.
-/
import Mathlib.Data.List.Sort
import GatewayProbe.Text.Ordered

namespace GatewayProbe

/-- The texts with a property, each once and in ascending order. -/
def Ascending (texts : List String) (P : String → Prop) : Prop :=
  texts.Pairwise (· < ·) ∧ ∀ text, text ∈ texts ↔ P text

theorem ascending_ordered {texts : List String} {P : String → Prop}
    (h : ∀ text, text ∈ texts ↔ P text) : Ascending (Text.ordered texts) P :=
  ⟨Text.pairwise_ordered texts, fun text => Text.mem_ordered.trans (h text)⟩

namespace Ascending

variable {texts others : List String} {P : String → Prop}

theorem eq (h : Ascending texts P) (h' : Ascending others P) : texts = others :=
  h.1.eq_of_mem_iff h'.1 fun text => (h.2 text).trans (h'.2 text).symm

/-- The first of texts in ascending order is the least. -/
theorem head?_eq_some_iff (h : Ascending texts P) {text : String} :
    texts.head? = some text ↔ P text ∧ ∀ other, P other → text ≤ other := by
  cases texts with
  | nil => exact iff_of_false (fun hnone => nomatch hnone) fun hP => nomatch (h.2 text).mpr hP.1
  | cons first rest =>
    have hfirst : P first := (h.2 first).mp List.mem_cons_self
    have hleast : ∀ other, P other → first ≤ other := by
      intro other hother
      rcases List.mem_cons.mp ((h.2 other).mpr hother) with rfl | hrest
      · exact String.le_refl _
      · exact Std.le_of_lt (List.rel_of_pairwise_cons h.1 hrest)
    rw [List.head?_cons, Option.some.injEq]
    constructor
    · rintro rfl
      exact ⟨hfirst, hleast⟩
    · rintro ⟨hP, hmin⟩
      exact String.le_antisymm (hleast text hP) (hmin first hfirst)

end Ascending
end GatewayProbe

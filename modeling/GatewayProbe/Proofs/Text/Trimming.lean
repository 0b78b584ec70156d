/-
Trimming, seen from both ends of a list.

* `trimChars_eq_nil_iff` — nothing is left exactly of blanks;
* `nonBlank?_ne_empty` — what is left otherwise is not empty;
* `trimChars_trimChars`, `nonBlank?_self` — and is trimmed;
* `dropEndWhile_eq_self_iff`, `trimChars_eq_self_iff` — when nothing is removed;
* `IsBare`, `isBare_of_nonBlank?` — no blank is left at either end;
* `trimChars_append_blank`, `trimChars_blank_append` — blanks at either end do not count;
* `exists_trimChars_append` — what is left of a text with anything after it;
* `exists_slashes`, `dropEndWhile_slashes` — slashes at the end, which addresses are freed of;
* `Padded`, `Padded.nonBlank?_eq` — a text with blanks put around it;
* `trimChars_between` — between two characters that are not blank nothing is removed.
-/
import Mathlib.Data.List.DropRight
import GatewayProbe.Text.Blank

namespace GatewayProbe.Text

theorem dropEndWhile_eq (p : Char → Bool) (cs : List Char) :
    dropEndWhile p cs = cs.rdropWhile p := rfl

theorem trimChars_eq_nil_iff {cs : List Char} : trimChars cs = [] ↔ ∀ c ∈ cs, isBlank c = true := by
  rw [trimChars, dropEndWhile_eq, List.rdropWhile_eq_nil_iff]
  constructor
  · intro h c hc
    by_contra hblank
    have hdrop : cs.dropWhile isBlank ≠ [] := fun hnil =>
      hblank (List.dropWhile_eq_nil_iff.mp hnil c hc)
    have hhead := List.head_dropWhile_not isBlank hdrop
    rw [h _ (List.head_mem hdrop)] at hhead
    cases hhead
  · exact fun h c hc => h c ((List.dropWhile_sublist _).subset hc)

theorem nonBlank?_ne_empty {s t : String} (h : nonBlank? s = some t) : t ≠ "" := by
  rw [nonBlank?] at h
  split at h
  · cases h
  · next hblank =>
    cases h
    intro hempty
    refine hblank (List.all_eq_true.mpr (trimChars_eq_nil_iff.mp ?_))
    rw [← String.toList_ofList (l := trimChars s.toList), ← trim, hempty, String.toList_empty]

/-- What is left of a text that is not blank is the trimmed text, which is not empty. -/
theorem nonBlank?_eq_some_iff {s t : String} : nonBlank? s = some t ↔ trim s = t ∧ t ≠ "" := by
  refine ⟨fun h => ⟨?_, nonBlank?_ne_empty h⟩, ?_⟩
  · rw [nonBlank?] at h
    split at h
    · cases h
    · exact Option.some.inj h
  · rintro ⟨rfl, hne⟩
    rw [nonBlank?, if_neg]
    intro hblank
    rw [trim, trimChars_eq_nil_iff.mpr (List.all_eq_true.mp hblank)] at hne
    exact hne rfl

theorem dropWhile_eq_self_iff {p : Char → Bool} {cs : List Char} :
    cs.dropWhile p = cs ↔ ∀ c ∈ cs.head?, p c = false := by
  cases cs with
  | nil => simp
  | cons c cs =>
    rw [List.dropWhile_eq_self_iff]
    simp

theorem dropEndWhile_eq_self_iff {p : Char → Bool} {cs : List Char} :
    dropEndWhile p cs = cs ↔ ∀ c ∈ cs.getLast?, p c = false := by
  rw [dropEndWhile_eq, List.rdropWhile_eq_self_iff]
  constructor
  · intro h c hc
    obtain ⟨init, rfl⟩ := List.getLast?_eq_some_iff.mp hc
    simpa using h (by simp)
  · exact fun h hne => Bool.eq_false_iff.mp (h _ (List.getLast?_eq_some_getLast hne))

/-- What is left ends with no character of that kind. -/
theorem getLast?_dropEndWhile (p : Char → Bool) (cs : List Char) :
    ∀ c ∈ (dropEndWhile p cs).getLast?, p c = false := by
  refine dropEndWhile_eq_self_iff.mp ?_
  rw [dropEndWhile_eq, dropEndWhile_eq, List.rdropWhile_idempotent]

/-- Nothing is removed exactly where no blank is at either end. -/
theorem trimChars_eq_self_iff {cs : List Char} : trimChars cs = cs ↔
    (∀ c ∈ cs.head?, isBlank c = false) ∧ ∀ c ∈ cs.getLast?, isBlank c = false := by
  rw [← dropWhile_eq_self_iff, ← dropEndWhile_eq_self_iff, trimChars]
  constructor
  · intro h
    -- Both cuts leave the list as it is, or it would have become shorter.
    have hfront : cs.dropWhile isBlank = cs := by
      refine (List.dropWhile_suffix isBlank).eq_of_length_le ?_
      conv_lhs => rw [← h]
      exact (List.rdropWhile_prefix isBlank _).length_le
    exact ⟨hfront, by rwa [hfront] at h⟩
  · rintro ⟨hfront, hback⟩
    rw [hfront, hback]

/-- Nothing is left to remove. -/
theorem trimChars_trimChars (cs : List Char) : trimChars (trimChars cs) = trimChars cs := by
  refine trimChars_eq_self_iff.mpr ⟨fun c hc => ?_, getLast?_dropEndWhile isBlank _⟩
  refine dropWhile_eq_self_iff.mp (List.dropWhile_idempotent isBlank cs) c ?_
  -- What is first after the blanks stays first when those at the end are removed.
  obtain ⟨back, hback⟩ := List.rdropWhile_prefix isBlank (l := cs.dropWhile isBlank)
  rw [← hback, List.head?_append, ← dropEndWhile_eq, ← trimChars, hc]
  rfl

theorem nonBlank?_self {s t : String} (h : nonBlank? s = some t) : nonBlank? t = some t := by
  obtain ⟨rfl, hne⟩ := nonBlank?_eq_some_iff.mp h
  refine nonBlank?_eq_some_iff.mpr ⟨?_, hne⟩
  rw [trim, trim, String.toList_ofList, trimChars_trimChars]

/-- A text that is not empty and neither begins nor ends with a blank. -/
structure IsBare (s : String) : Prop where
  filled : s ≠ ""
  front : ∀ c ∈ s.toList.head?, isBlank c = false
  back : ∀ c ∈ s.toList.getLast?, isBlank c = false

/-- What is left of a text that is not blank is bare. -/
theorem isBare_of_nonBlank? {s t : String} (h : nonBlank? s = some t) : IsBare t := by
  obtain ⟨rfl, hne⟩ := nonBlank?_eq_some_iff.mp h
  obtain ⟨hfront, hback⟩ := trimChars_eq_self_iff.mp (trimChars_trimChars s.toList)
  rw [trim] at hne ⊢
  exact ⟨hne, by rwa [String.toList_ofList], by rwa [String.toList_ofList]⟩

/-! ### More blanks -/

variable {cs ws : List Char}

theorem exists_dropEndWhile (p : Char → Bool) (cs : List Char) :
    ∃ ws, cs = dropEndWhile p cs ++ ws ∧ ∀ c ∈ ws, p c = true := by
  refine ⟨(cs.reverse.takeWhile p).reverse, ?_, fun c hc => ?_⟩
  · rw [dropEndWhile, ← List.reverse_append, List.takeWhile_append_dropWhile, List.reverse_reverse]
  · exact List.mem_takeWhile_imp (List.mem_reverse.mp hc)

theorem dropEndWhile_append {p : Char → Bool} (h : ∀ c ∈ ws, p c = true) :
    dropEndWhile p (cs ++ ws) = dropEndWhile p cs := by
  rw [dropEndWhile, List.reverse_append, List.dropWhile_append_of_pos, dropEndWhile]
  exact fun c hc => h c (List.mem_reverse.mp hc)

theorem trimChars_blank_append (h : ∀ c ∈ ws, isBlank c = true) :
    trimChars (ws ++ cs) = trimChars cs := by
  rw [trimChars, List.dropWhile_append_of_pos h, trimChars]

theorem trimChars_append_blank (h : ∀ c ∈ ws, isBlank c = true) :
    trimChars (cs ++ ws) = trimChars cs := by
  rw [trimChars, List.dropWhile_append, trimChars]
  split
  · next hempty =>
    rw [List.isEmpty_iff.mp hempty, List.dropWhile_eq_nil_iff.mpr h]
  · exact dropEndWhile_append h

theorem trimChars_sublist (cs : List Char) : (trimChars cs).Sublist cs :=
  (List.rdropWhile_prefix isBlank _).sublist.trans (List.dropWhile_sublist isBlank)

/-- Nothing is removed in front of a character that stays. -/
theorem dropEndWhile_append_eq (p : Char → Bool) (cs ws : List Char) :
    dropEndWhile p (cs ++ ws) =
      if dropEndWhile p ws = [] then dropEndWhile p cs else cs ++ dropEndWhile p ws := by
  simp only [dropEndWhile, List.reverse_append, List.dropWhile_append, List.isEmpty_iff,
    List.reverse_eq_nil_iff]
  split
  · rfl
  · rw [List.reverse_append, List.reverse_reverse]

theorem dropEndWhile_prefix_append (p : Char → Bool) (cs ws : List Char) :
    dropEndWhile p cs <+: dropEndWhile p (cs ++ ws) := by
  rw [dropEndWhile_append_eq]
  split
  · exact List.prefix_rfl
  · exact (List.rdropWhile_prefix p cs).trans (List.prefix_append cs _)

theorem trimChars_prefix_append (cs ws : List Char) : trimChars cs <+: trimChars (cs ++ ws) := by
  rw [trimChars, trimChars, List.dropWhile_append]
  split
  · next hblank =>
    rw [List.isEmpty_iff.mp hblank]
    exact List.nil_prefix
  · exact dropEndWhile_prefix_append isBlank _ ws

/-- Of a text with something after it, trimming leaves what it leaves of the text and then no more
than the blanks there and what comes after. -/
theorem exists_trimChars_append (cs ws : List Char) :
    ∃ more, trimChars (cs ++ ws) = trimChars cs ++ more ∧
      ∀ c ∈ more, isBlank c = true ∨ c ∈ ws := by
  obtain ⟨more, hmore⟩ := trimChars_prefix_append cs ws
  refine ⟨more, hmore.symm, fun c hc => ?_⟩
  by_cases hblank : ∀ c ∈ cs, isBlank c = true
  · rw [trimChars_blank_append hblank, trimChars_eq_nil_iff.mpr hblank, List.nil_append] at hmore
    exact .inr ((trimChars_sublist ws).subset (hmore ▸ hc))
  · obtain ⟨back, hback, hblanks⟩ := exists_dropEndWhile isBlank (cs.dropWhile isBlank)
    have hfront : (cs ++ ws).dropWhile isBlank = trimChars cs ++ (back ++ ws) := by
      rw [List.dropWhile_append, if_neg, ← List.append_assoc]
      · exact congrArg (· ++ ws) hback
      · exact fun hnil => hblank (List.dropWhile_eq_nil_iff.mp (List.isEmpty_iff.mp hnil))
    have hprefix : trimChars cs ++ more <+: trimChars cs ++ (back ++ ws) := by
      rw [hmore, ← hfront]
      exact List.rdropWhile_prefix isBlank _
    have hmem := ((List.prefix_append_right_inj _).mp hprefix).subset hc
    exact (List.mem_append.mp hmem).imp_left (hblanks c)

theorem trimChars_between {a b : Char} (ha : isBlank a = false) (hb : isBlank b = false)
    (cs : List Char) : trimChars (a :: (cs ++ [b])) = a :: (cs ++ [b]) := by
  rw [trimChars, List.dropWhile_cons_of_neg (by simp [ha]), dropEndWhile_eq, ← List.cons_append,
    List.rdropWhile_concat_neg _ _ _ (by simp [hb])]

theorem all_isBlank_append (h : ∀ c ∈ ws, isBlank c = true) :
    (cs ++ ws).all isBlank = cs.all isBlank := by
  rw [List.all_append, List.all_eq_true.mpr h, Bool.and_true]

theorem nonBlank?_append (h : ∀ c ∈ ws, isBlank c = true) :
    nonBlank? (String.ofList (cs ++ ws)) = nonBlank? (String.ofList cs) := by
  simp only [nonBlank?, isBlankText, trim, String.toList_ofList, all_isBlank_append h,
    trimChars_append_blank h]

/-- A text is another with any blanks put in front of it and behind it. -/
def Padded (s t : String) : Prop :=
  ∃ front back : List Char, (∀ c ∈ front, isBlank c = true) ∧ (∀ c ∈ back, isBlank c = true) ∧
    t.toList = front ++ (s.toList ++ back)

/-- What is left of a text does not depend on the blanks around it. -/
theorem Padded.nonBlank?_eq {s t : String} (h : Padded s t) : nonBlank? s = nonBlank? t := by
  obtain ⟨front, back, hfront, hback, ht⟩ := h
  have hblank : isBlankText t = isBlankText s := by
    rw [isBlankText, ht, List.all_append, List.all_eq_true.mpr hfront, Bool.true_and,
      all_isBlank_append hback, isBlankText]
  have htrim : trim t = trim s := by
    rw [trim, ht, trimChars_blank_append hfront, trimChars_append_blank hback, trim]
  rw [nonBlank?, nonBlank?, hblank, htrim]

/-! ### Slashes at the end -/

theorem dropEndWhile_slashes (cs : List Char) (n : Nat) :
    dropEndWhile (· = '/') (cs ++ List.replicate n '/') = dropEndWhile (· = '/') cs :=
  dropEndWhile_append fun _ hc => decide_eq_true (List.eq_of_mem_replicate hc)

/-- A text is what is left of it, with slashes after it. -/
theorem exists_slashes (cs : List Char) :
    ∃ n, cs = dropEndWhile (· = '/') cs ++ List.replicate n '/' := by
  obtain ⟨ws, hcs, hws⟩ := exists_dropEndWhile (· = '/') cs
  refine ⟨ws.length, ?_⟩
  rwa [← List.eq_replicate_of_mem fun c hc => of_decide_eq_true (hws c hc)]

theorem getLast?_dropEndWhile_slash (cs : List Char) :
    (dropEndWhile (· = '/') cs).getLast? ≠ some '/' :=
  fun hlast => absurd rfl (of_decide_eq_false (getLast?_dropEndWhile _ cs '/' hlast))

theorem dropEndWhile_slash_eq_self_iff :
    dropEndWhile (· = '/') cs = cs ↔ cs.getLast? ≠ some '/' := by
  refine ⟨fun h => h ▸ getLast?_dropEndWhile_slash cs, fun h => ?_⟩
  refine dropEndWhile_eq_self_iff.mpr fun c hc => decide_eq_false ?_
  rintro rfl
  exact h hc

end GatewayProbe.Text

/-
Fallbacks in the gateway's counters, and where they are told of.

The counters of a translator are numbers of 64 bits each, and their sum has to be one as well. Where
it is, fallbacks are told of exactly if there are any, in the check of the counters as well as on
their page. Where it is not, the program is aborted, and there is neither a check nor a page.

* `Counters.HasFallbacks`, `Counters.fallbackSum_pos_iff` — there are fallbacks to tell of;
* `CounterPage.fits_of_parse` — the counters of a page that was read fit 64 bits;
* `Finding.fallbackNote_mem_iff`, `Ink.counters_eq` — the sum decides what is told;
* `fallbacks_told` — what is told of the counters of a page.
-/
import GatewayProbe.Proofs.Json.Records
import GatewayProbe.Proofs.Run.CounterSums
import GatewayProbe.View.Pages

namespace GatewayProbe

open Decimal

namespace Counters

/-- Some request could not be passed on unchanged. -/
def HasFallbacks (c : Counters) : Prop := c.noCompatible ≠ 0 ∨ c.noSupport ≠ 0 ∨ c.cannotPass ≠ 0

instance : DecidablePred HasFallbacks := fun _ => inferInstanceAs (Decidable (_ ∨ _ ∨ _))

/-- The counters of fallbacks are numbers of 64 bits. -/
structure Fits (c : Counters) : Prop where
  noCompatible : c.noCompatible < word64
  noSupport : c.noSupport < word64
  cannotPass : c.cannotPass < word64

theorem fallbackSum_pos_iff {c : Counters} : 0 < c.fallbackSum ↔ c.HasFallbacks := by
  rw [fallbackSum, HasFallbacks]
  omega

end Counters

/-! ### Counters that were read -/

namespace CounterPage

theorem fits_of_counters? {doc : Document} {c : Counters} (h : counters? doc = some c) :
    c.Fits := by
  simp only [counters?, Option.bind_eq_bind, Option.bind_eq_some_iff] at h
  -- The counters of fallbacks are the last three fields that are read.
  obtain ⟨fields, -, _, -, _, -, _, -, _, -, _, -, _, -, _, -, compatible, hcompatible, support,
    hsupport, pass, hpass, hc⟩ := h
  cases hc
  have hbound : 0 < word64 := by decide
  exact ⟨Fields.lt_of_read hcompatible hbound, Fields.lt_of_read hsupport hbound,
    Fields.lt_of_read hpass hbound⟩

/-- Every translator of a page that was read has counters of 64 bits. -/
theorem fits_of_parse {body : String} {page : CounterPage} (h : parse? body = some page)
    {c : Counters} (hc : c ∈ page.translators) : c.Fits := by
  obtain ⟨doc, -, h⟩ := Option.bind_eq_some_iff.mp h
  simp only [ofDocument?, Option.bind_eq_bind, Option.bind_eq_some_iff] at h
  obtain ⟨fields, -, translators, htranslators, rates, -, hpage⟩ := h
  cases hpage
  obtain ⟨part, hpart⟩ := Fields.exists_of_mem_read htranslators hc
  exact fits_of_counters? hpart

end CounterPage

/-! ### Where fallbacks are told of -/

namespace Finding

variable {v : Finding} {condition : Bool} {note text : String}

theorem mem_notes_failIf :
    note ∈ (v.failIf condition text).notes ↔ note ∈ v.notes ∨ condition = true ∧ note = text := by
  cases condition with
  | true => simp [failIf, addFault]
  | false => simp [failIf]

theorem mem_notes_noteIf :
    note ∈ (v.noteIf condition text).notes ↔ note ∈ v.notes ∨ condition = true ∧ note = text := by
  cases condition with
  | true => simp [noteIf, Finding.note]
  | false => simp [noteIf]

/-- No failed rule begins as the note on fallbacks does. -/
theorem fallbackNote_ne {c : Counters} (h : text.toList.head? ≠ some 'f') :
    c.fallbackNote ≠ text := by
  intro heq
  have hfirst : (toString "fallbacks: no_compatible=").toList.head? = some 'f' := by decide +kernel
  rw [← heq] at h
  -- Its equation is not used: with it the note would be evaluated.
  unfold Counters.fallbackNote at h
  simp only [String.toList_append, List.append_assoc, List.head?_append, hfirst, Option.some_or,
    ne_eq, not_true] at h

/-- The notes of the three rules are others. -/
theorem fallbackNote_not_mem_compare (c : Counters) (p t : Bool) :
    c.fallbackNote ∉ (c.compare p t).notes := by
  have htotal : c.fallbackNote ≠ "total_requests is 0 after requests were sent" :=
    fallbackNote_ne (by decide +kernel)
  have hpassthrough : c.fallbackNote ≠
      "passthrough_requests is 0 but passthrough responses were observed" :=
    fallbackNote_ne (by decide +kernel)
  have htranslated : c.fallbackNote ≠
      "translation_requests is 0 but translated responses were observed" :=
    fallbackNote_ne (by decide +kernel)
  rw [Counters.compare, mem_notes_failIf, mem_notes_failIf, mem_notes_failIf]
  rintro (((hnone | ⟨-, heq⟩) | ⟨-, heq⟩) | ⟨-, heq⟩)
  · cases hnone
  · exact htotal heq
  · exact hpassthrough heq
  · exact htranslated heq

section Told

variable {page : CounterPage} {c : Counters} (h : page.anthropic? = some c)

include h

/-- The check of the counters, by the sum of fallbacks. -/
theorem ofCounters?_eq (p t : Bool) : ofCounters? page p t =
    if c.fallbackSum < word64 then
      some ((c.compare p t).noteIf (c.fallbackSum > 0) c.fallbackNote) else none := by
  rw [ofCounters?, h]
  dsimp only
  rw [Counters.fallbacks?_eq]
  split <;> rfl

/-- Where there is a check, it notes fallbacks exactly if there are any. -/
theorem fallbackNote_mem_iff {p t : Bool} {v : Finding} (hv : ofCounters? page p t = some v) :
    c.fallbackNote ∈ v.notes ↔ c.HasFallbacks := by
  rw [ofCounters?_eq h] at hv
  split at hv
  · cases hv
    rw [mem_notes_noteIf, decide_eq_true_eq, gt_iff_lt, Counters.fallbackSum_pos_iff]
    constructor
    · rintro (hother | ⟨hsome, -⟩)
      · exact absurd hother (fallbackNote_not_mem_compare c p t)
      · exact hsome
    · exact fun hsome => .inr ⟨hsome, rfl⟩
  · cases hv

end Told
end Finding

namespace Ink

/-- The page of the counters, by the sum of fallbacks. -/
theorem counters_eq {page : CounterPage} {c : Counters} (h : page.anthropic? = some c) (ink : Ink) :
    ink.counters page =
      if c.fallbackSum < word64 then
        some (ink.counterLine c ++ if c.HasFallbacks then fallbackLine c else "") else none := by
  rw [counters, h]
  dsimp only
  rw [Counters.fallbacks?_eq]
  split
  · rw [Option.map_some]
    simp only [gt_iff_lt, Counters.fallbackSum_pos_iff]
  · rfl

end Ink

/-- **What is told of fallbacks.** Each counter of a page that was read fits 64 bits, and the
fallbacks of a translator add up exactly, if their sum fits as well. Then the check of the counters
and their page tell of fallbacks where there are any, and nowhere else. If the sum does not fit,
the program is aborted over the check as over the page. -/
theorem fallbacks_told {body : String} {page : CounterPage}
    (h : CounterPage.parse? body = some page) :
    (∀ c ∈ page.translators, c.Fits ∧
      c.fallbacks? = if c.fallbackSum < word64 then some c.fallbackSum else none) ∧
    ∀ c, page.anthropic? = some c →
      (c.fallbackSum < word64 →
        (∀ p t, ∃ v, Finding.ofCounters? page p t = some v ∧
          (c.fallbackNote ∈ v.notes ↔ c.HasFallbacks)) ∧
        ∀ ink : Ink, ink.counters page =
          some (ink.counterLine c ++ if c.HasFallbacks then Ink.fallbackLine c else "")) ∧
      (word64 ≤ c.fallbackSum →
        (∀ p t, Finding.ofCounters? page p t = none) ∧ ∀ ink : Ink, ink.counters page = none) := by
  refine ⟨fun c hc => ⟨CounterPage.fits_of_parse h hc, c.fallbacks?_eq⟩, fun c hc => ⟨?_, ?_⟩⟩
  · intro hfits
    refine ⟨fun p t => ?_, fun ink => by rw [Ink.counters_eq hc, if_pos hfits]⟩
    have hv := Finding.ofCounters?_eq hc p t
    rw [if_pos hfits] at hv
    exact ⟨_, hv, Finding.fallbackNote_mem_iff hc hv⟩
  · intro hlost
    have hnot : ¬c.fallbackSum < word64 := Nat.not_lt.mpr hlost
    exact ⟨fun p t => by rw [Finding.ofCounters?_eq hc, if_neg hnot],
      fun ink => by rw [Ink.counters_eq hc, if_neg hnot]⟩

/-- The fallbacks of this page add up to the last number that fits 64 bits. -/
def fullPage : String :=
  "\x7b\"translators\":[\x7b\"translator_name\":\"anthropic\"," ++
    "\"fallback_no_compatible_endpoints\":3," ++
    "\"fallback_cannot_passthrough\":18446744073709551612\x7d]\x7d"

/-- The first translator for Anthropic messages on a page, through its three counters. -/
theorem exists_of_anthropic? (body : String) (n m k : Nat)
    (h : ((CounterPage.parse? body).bind CounterPage.anthropic?).map
      (fun c => (c.noCompatible, c.noSupport, c.cannotPass)) = some (n, m, k)) :
    ∃ page c, CounterPage.parse? body = some page ∧ page.anthropic? = some c ∧
      c.HasFallbacks = (n ≠ 0 ∨ m ≠ 0 ∨ k ≠ 0) ∧ c.fallbackSum = n + m + k := by
  obtain ⟨c, hread, hcounts⟩ := Option.map_eq_some_iff.mp h
  obtain ⟨page, hpage, hc⟩ := Option.bind_eq_some_iff.mp hread
  cases hcounts
  exact ⟨page, c, hpage, hc, rfl, rfl⟩

/-- A sum that just fits is exact, and it is told of. -/
theorem fallbacks_told_full :
    ∃ page c, CounterPage.parse? fullPage = some page ∧ page.anthropic? = some c ∧
      c.fallbacks? = some (word64 - 1) ∧
      (∃ v, Finding.ofCounters? page false false = some v ∧ c.fallbackNote ∈ v.notes) ∧
      ∀ ink : Ink, ink.counters page = some (ink.counterLine c ++ Ink.fallbackLine c) := by
  obtain ⟨page, c, hpage, hc, hsome, hsum⟩ :=
    exists_of_anthropic? fullPage 3 0 18446744073709551612 (by decide +kernel)
  have hfallbacks : c.HasFallbacks := by
    rw [hsome]
    decide
  have hfits : c.fallbackSum < word64 := by
    rw [hsum]
    decide
  obtain ⟨-, hall⟩ := fallbacks_told hpage
  obtain ⟨hnotes, hlines⟩ := (hall c hc).1 hfits
  obtain ⟨v, hv, hnote⟩ := hnotes false false
  refine ⟨page, c, hpage, hc, ?_, ⟨v, hv, hnote.mpr hfallbacks⟩, fun ink => ?_⟩
  · rw [Counters.fallbacks?_of_lt hfits, hsum]
    rfl
  · rw [hlines, if_pos hfallbacks]

/-- The sum does not fit by one, so nothing is told, though there are fallbacks. -/
theorem fallbacks_untold :
    ∃ page c, CounterPage.parse? lostPage = some page ∧ page.anthropic? = some c ∧
      c.HasFallbacks ∧ c.fallbackSum = word64 ∧ c.fallbacks? = none ∧
      (∀ p t, Finding.ofCounters? page p t = none) ∧ ∀ ink : Ink, ink.counters page = none := by
  obtain ⟨page, c, hpage, hc, hsome, hsum⟩ :=
    exists_of_anthropic? lostPage 9223372036854775808 0 9223372036854775808 (by decide +kernel)
  have hlost : ¬c.fallbackSum < word64 := by
    rw [hsum]
    decide
  refine ⟨page, c, hpage, hc, ?_, hsum, ?_, fun p t => ?_, fun ink => ?_⟩
  · rw [hsome]
    decide
  · rw [Counters.fallbacks?_eq, if_neg hlost]
  · rw [Finding.ofCounters?_eq hc, if_neg hlost]
  · rw [Ink.counters_eq hc, if_neg hlost]

end GatewayProbe

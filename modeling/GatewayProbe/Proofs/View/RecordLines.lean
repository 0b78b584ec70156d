/-
One line a record.

The page of a report has a line for each record, and two for the header of each new group. A record
takes more lines only where its name or its detail holds a line break, and what breaks there is a
text that the gateway said, or an id that the user gave.

* `breaks` — the number of line breaks in a text;
* `breaks_records` — the lines of a page, counted; `breaks_records_iff` — when each record has one;
* `records_quote` — the records of every run are one line each, unless what they quote is not.
-/
import GatewayProbe.Proofs.Run.Diagnostics
import GatewayProbe.View.Pages

namespace GatewayProbe

/-- The number of line breaks in a text. -/
def breaks (s : String) : Nat := s.toList.count '\n'

@[simp] theorem breaks_append (s t : String) : breaks (s ++ t) = breaks s + breaks t := by
  rw [breaks, String.toList_append, List.count_append, breaks, breaks]

theorem breaks_eq_zero_iff {s : String} : breaks s = 0 ↔ OneLine s := List.count_eq_zero

/-- How many records of a list open a new group, after a record of the given group. -/
def groupChanges (group : String) : List Record → Nat
  | [] => 0
  | r :: rest => (if r.group = group then 0 else 1) + groupChanges r.group rest

/-- How many lines the records of a list take in excess of one each. -/
def excessBreaks (group : String) : List Record → Nat
  | [] => 0
  | r :: rest => (if r.group = group then 0 else breaks r.group) + breaks r.name +
      breaks r.detail + excessBreaks r.group rest

/-! ### Groups -/

theorem Text.mem_of_mem_splitChars {sep c : Char} {part cs : List Char}
    (hpart : part ∈ splitChars sep cs) (hc : c ∈ part) : c ∈ cs := by
  induction cs generalizing part with
  | nil =>
    rw [splitChars, List.mem_singleton] at hpart
    subst hpart
    cases hc
  | cons d cs ih =>
    rw [splitChars] at hpart
    split at hpart
    · rcases List.mem_cons.mp hpart with rfl | hpart
      · cases hc
      · exact List.mem_cons_of_mem d (ih hpart hc)
    · split at hpart
      · rw [List.mem_singleton] at hpart
        subst hpart
        exact List.mem_cons.mpr (.inl (List.mem_singleton.mp hc))
      · next first parts hsplit =>
        rcases List.mem_cons.mp hpart with rfl | hpart
        · rcases List.mem_cons.mp hc with rfl | hc
          · exact List.mem_cons_self
          · exact List.mem_cons_of_mem d (ih (hsplit ▸ List.mem_cons_self) hc)
        · exact List.mem_cons_of_mem d (ih (hsplit ▸ List.mem_cons_of_mem _ hpart) hc)

/-- A group has no line break that the name has not. -/
theorem Record.oneLine_group {r : Record} (h : OneLine r.name) : OneLine r.group := by
  rw [Record.group, Text.splitAtChar]
  cases hsplit : Text.splitChars '/' r.name.toList with
  | nil => exact h
  | cons first parts =>
    refine oneLine_ofList.mpr fun hbreak => h ?_
    exact Text.mem_of_mem_splitChars (hsplit ▸ List.mem_cons_self) hbreak

/-- A header breaks no line that the name under it does not break. -/
theorem excessBreaks_eq_zero_iff (group : String) {records : List Record} :
    excessBreaks group records = 0 ↔ ∀ r ∈ records, OneLine r.name ∧ OneLine r.detail := by
  induction records generalizing group with
  | nil => exact iff_of_true rfl fun r hr => absurd hr List.not_mem_nil
  | cons r rest ih =>
    -- Where the name is one line the header adds nothing, so the sum is of names and details.
    rw [List.forall_mem_cons, ← ih r.group, ← breaks_eq_zero_iff, ← breaks_eq_zero_iff]
    have hgroup (h : breaks r.name = 0) : (if r.group = group then 0 else breaks r.group) = 0 := by
      split
      · rfl
      · exact breaks_eq_zero_iff.mpr (Record.oneLine_group (breaks_eq_zero_iff.mp h))
    rw [excessBreaks]
    constructor
    · intro h
      omega
    · rintro ⟨⟨hname, hdetail⟩, hrest⟩
      rw [hgroup hname, hname, hdetail, hrest]

/-! ### Pages -/

namespace Ink

variable (ink : Ink)

/-- Codes that are put between the characters of a text break no line. -/
theorem count_reopen {on : List Char} (hon : '\n' ∉ on) (cs : List Char) :
    (reopen on cs).count '\n' = cs.count '\n' := by
  fun_induction reopen on cs with
  | case1 rest ih =>
    have hoff : off.count '\n' = 0 := by decide
    simp [List.count_append, hoff, List.count_eq_zero.mpr hon, ih]
  | case2 c rest _ ih => rw [List.count_cons, List.count_cons, ih]
  | case3 => rfl

@[simp] theorem breaks_paint (style : Style) (s : String) :
    breaks (ink.paint style s) = breaks s := by
  rw [paint]
  split
  -- What is put before, after and into the text are codes, which hold no line break.
  · have hon : '\n' ∉ escape ++ style.codes.toList ++ ['m'] := by cases style <;> decide
    have hoff : off.count '\n' = 0 := by decide
    rw [breaks, String.toList_ofList, List.count_append, List.count_append, count_reopen hon,
      List.count_eq_zero.mpr hon, hoff, breaks]
    omega
  · rfl

theorem breaks_recordLine (r : Record) :
    breaks (ink.recordLine r) = breaks r.name + breaks r.detail + 1 := by
  have hstatus : breaks (ink.status r.status) = 0 ∧ breaks r.status.icon = 0 := by
    cases r.status <;> exact ⟨ink.breaks_paint _ _, by decide⟩
  have hdetail : breaks (if r.detail = "" then "" else "  " ++ ink.paint .dimmed r.detail) =
      breaks r.detail := by
    split
    · next hnone => rw [hnone]
    · rw [breaks_append, breaks_paint, show breaks "  " = 0 by decide, Nat.zero_add]
  rw [recordLine]
  simp only [breaks_append, hstatus, hdetail]
  simp only [show breaks "  " = 0 by decide, show breaks " [" = 0 by decide,
    show breaks "] " = 0 by decide, show breaks "\n" = 1 by decide]
  omega

theorem breaks_recordLines (group : String) (records : List Record) :
    breaks (String.join (ink.recordLines group records)) =
      records.length + 2 * groupChanges group records + excessBreaks group records := by
  induction records generalizing group with
  | nil => rfl
  | cons r rest ih =>
    have hheader : breaks (if r.group = group then "" else
        "\n" ++ ink.paint .bold r.group ++ "\n") =
        2 * (if r.group = group then 0 else 1) + if r.group = group then 0 else breaks r.group := by
      split
      · rfl
      · simp only [breaks_append, breaks_paint, show breaks "\n" = 1 by decide]
        omega
    rw [recordLines, String.join_cons, breaks_append, breaks_append, hheader, breaks_recordLine,
      ih, groupChanges, excessBreaks, List.length_cons]
    omega

/-- The page of a report has a line for each record and two for each new group, and as many more as
names, details and headers hold line breaks. -/
theorem breaks_records (report : Report) :
    breaks (ink.records report) = report.records.length + 2 * groupChanges "" report.records +
      excessBreaks "" report.records :=
  ink.breaks_recordLines "" report.records

/-- Each record has one line exactly where no name and no detail holds a line break. -/
theorem breaks_records_iff (report : Report) :
    breaks (ink.records report) = report.records.length + 2 * groupChanges "" report.records ↔
      ∀ r ∈ report.records, OneLine r.name ∧ OneLine r.detail := by
  rw [breaks_records, ← excessBreaks_eq_zero_iff ""]
  omega

end Ink

/-! ### Every run -/

/-- **Records break lines only with what they quote.** Names and details are put together of
one-line texts and of what the gateway said; a name may also quote an id that the user gave. The
page has one line a record and two for each new group exactly where no name and no detail holds a
line break. Where no text that was said holds one, no detail does, and if the given ids hold none
either, the page has these lines. -/
theorem records_quote (setup : Setup) (run : ReportingRun) (gateway : Gateway)
    (seen : List Request) {report : Report}
    (h : ((run.session setup).run gateway seen).1 = .ok report) :
    let said := (run.session setup).heard gateway seen
    let lines := report.records.length + 2 * groupChanges "" report.records
    (∀ record ∈ report.records,
      record.Quoting (fun text => said text ∨ text ∈ run.given) said) ∧
    (∀ ink : Ink, breaks (ink.records report) = lines ↔
      ∀ record ∈ report.records, OneLine record.name ∧ OneLine record.detail) ∧
    ((∀ text, said text → OneLine text) →
      (∀ record ∈ report.records, OneLine record.detail) ∧
      ((∀ id ∈ run.given, OneLine id) → ∀ ink : Ink, breaks (ink.records report) = lines)) := by
  intro said lines
  have hquoting : ∀ record ∈ report.records,
      record.Quoting (fun text => said text ∨ text ∈ run.given) said :=
    (ReportingRun.session_hears setup (fun _ => Or.inl) fun _ => Or.inr).of_heard
      (fun _ hsaid => hsaid) report h
  refine ⟨hquoting, fun ink => ink.breaks_records_iff report, fun hsaid => ?_⟩
  have hdetail : ∀ record ∈ report.records, OneLine record.detail := fun record hrecord =>
    (hquoting record hrecord).detail.oneLine hsaid
  refine ⟨hdetail, fun hgiven ink => ?_⟩
  refine (ink.breaks_records_iff report).mpr fun record hrecord => ⟨?_, hdetail record hrecord⟩
  refine (hquoting record hrecord).name.oneLine fun text htext => ?_
  rcases htext with htext | htext
  · exact hsaid text htext
  · exact hgiven text htext

/-- A failed reply with a text. -/
def failedReply (body : String) : Reply :=
  { status := 500, headers := [], chunks := [⟨0, Text.toUtf8 body⟩] }

/-- The report of one watched delivery, from a gateway that always fails with a text. -/
def failedReport (body : String) : Except Halt Report :=
  (((ReportingRun.deliveries "phi4" true).session ⟨{}⟩).run (fun _ _ => .reply (failedReply body))
    []).1

/-- The text of a failure is one line, and so is the record: with the header, the page has three. -/
theorem records_quote_failing :
    ∃ report, failedReport "no backend" = .ok report ∧
      report.records.map Record.detail = ["HTTP 500: no backend"] ∧
      ∀ ink : Ink, breaks (ink.records report) = 3 := by
  have hrun : failedReport "no backend" =
      .ok ⟨"streaming", [⟨"streaming/long_response", .fail, "HTTP 500: no backend"⟩]⟩ := by
    decide +kernel
  obtain ⟨-, -, hlines⟩ := records_quote ⟨{}⟩ (.deliveries "phi4" true) _ [] hrun
  have hpage : ∀ text, ¬PageSays (failedReply "no backend").received text := by
    have hreceived : (failedReply "no backend").received = "no backend" := by decide +kernel
    have hparse : Json.parse? "no backend" = none := by decide +kernel
    have hendpoints : (readEndpoints "no backend").toOption = none := by decide +kernel
    have hmodels (source : ListSource) :
        (parseModels source "no backend").toOption = none := by
      cases source <;> decide +kernel
    rw [hreceived]
    intro text hsays
    cases hsays with
    | key read _ | type read _ | role read _ => rw [hparse] at read; cases read
    | endpointName read _ | endpointType read _ => rw [read] at hendpoints; cases hendpoints
    | @model source _ _ read _ =>
      have hnone := hmodels source
      rw [read] at hnone
      cases hnone
  have hsaid : ∀ text, ((ReportingRun.deliveries "phi4" true).session ⟨{}⟩).heard
      (fun _ _ => .reply (failedReply "no backend")) [] text → OneLine text := by
    rintro text ⟨e, he, r, hr, hsays⟩
    obtain ⟨asked, hanswer⟩ := Session.answer_of_mem_exchanges he
    rw [hr] at hanswer
    cases hanswer
    cases hsays with
    | page h => exact absurd h (hpage text)
    | excerpt cut _ => rcases cut with rfl | rfl <;> decide +kernel
  exact ⟨_, hrun, rfl, (hlines hsaid).2 fun _ h => nomatch h⟩

/-- The text of a failure has two lines, and so has the record. -/
theorem records_quote_broken :
    (¬∀ (setup : Setup) (run : ReportingRun) (gateway : Gateway) (seen : List Request)
      (report : Report), ((run.session setup).run gateway seen).1 = .ok report →
        ∀ record ∈ report.records, OneLine record.detail) ∧
    ¬∀ (setup : Setup) (run : ReportingRun) (gateway : Gateway) (seen : List Request)
      (report : Report), ((run.session setup).run gateway seen).1 = .ok report →
        ∀ ink : Ink, breaks (ink.records report) =
          report.records.length + 2 * groupChanges "" report.records := by
  have hrun : failedReport "no\nbackend" =
      .ok ⟨"streaming", [⟨"streaming/long_response", .fail, "HTTP 500: no\nbackend"⟩]⟩ := by
    decide +kernel
  constructor
  · intro hall
    exact absurd (hall _ _ _ _ _ hrun _ (List.mem_singleton_self _)) (by decide)
  · intro hall
    have hlines := (Ink.breaks_records_iff {} _).mp (hall _ _ _ _ _ hrun {})
    exact absurd (hlines _ (List.mem_singleton_self _)).2 (by decide)

end GatewayProbe

/-
Reports in phases.

A phase leaves records that are named after it, each under a label of its own; the labels may be
anything, slashes included, but the names of phases hold none. So the group of a record is its
phase, whatever the label is, and counting by groups counts every record once.

* `PhaseRecords` — what one phase leaves;
* `group_of_name`, `PhaseRecords.grouped` — the group of what it leaves is the phase;
* `map_filter_group` — the records of a group are those that its phase left;
* `Report.Phased` — a report whose records stand in phases, and whose counts say so;
* `Report.phased_of_parts` — what the phases leave makes such a report.
-/
import Mathlib.Algebra.GroupWithZero.Nat
import Mathlib.Data.List.Forall2
import Mathlib.Data.List.Nodup
import GatewayProbe.Run.Surface

namespace GatewayProbe

/-- The records of one phase: at least one, each named after the phase and under its own label. -/
structure PhaseRecords (phase : String) (part : List Record) : Prop where
  nonempty : part ≠ []
  labelled : ∃ labels : List String, labels.Nodup ∧
    part.map Record.name = labels.map fun label => phase ++ "/" ++ label

/-- What a phase leaves where it is kept, and nothing where it is left out. -/
def KeptRecords (keep : String → Bool) (phase : String) (part : List Record) : Prop :=
  if keep phase then PhaseRecords phase part else part = []

/-- Some records, all of one group. -/
def Grouped (group : String) (part : List Record) : Prop :=
  part ≠ [] ∧ ∀ r ∈ part, r.group = group

/-- A report in phases: the records of each phase stand together, in the order of the phases, and
all names are distinct. Exactly these phases are counted, each with some record, and every record
is counted once. -/
structure Report.Phased (kept : List String) (report : Report) : Prop where
  grouped : ∃ parts : List (List Record), report.records = parts.flatten ∧
    List.Forall₂ Grouped kept parts
  distinct : (report.records.map Record.name).Nodup
  listed : (phaseCounts report).map PhaseCount.phase = kept
  counted : ∀ c ∈ phaseCounts report, 0 < c.passed + c.failed + c.skipped
  passed : ((phaseCounts report).map PhaseCount.passed).sum = report.passed
  failed : ((phaseCounts report).map PhaseCount.failed).sum = report.failed
  skipped : ((phaseCounts report).map PhaseCount.skipped).sum = report.skipped

/-! ### Names and groups -/

theorem slash_not_mem : ∀ phase ∈ phases, '/' ∉ phase.toList := by decide

theorem group_of_name {phase label : String} (h : '/' ∉ phase.toList) {r : Record}
    (hname : r.name = phase ++ "/" ++ label) : r.group = phase := by
  have hchars : r.name.toList = phase.toList ++ '/' :: label.toList := by
    rw [hname, String.toList_append, String.toList_append, List.append_assoc]
    rfl
  rw [Record.group, Text.splitAtChar, hchars, Text.splitChars_append h, List.map_cons,
    List.headD_cons, String.ofList_toList]

theorem PhaseRecords.grouped {phase : String} {part : List Record} (h : PhaseRecords phase part)
    (hphase : '/' ∉ phase.toList) : Grouped phase part := by
  refine ⟨h.nonempty, fun r hr => ?_⟩
  obtain ⟨labels, -, hnames⟩ := h.labelled
  have hname : r.name ∈ labels.map fun label => phase ++ "/" ++ label :=
    hnames ▸ List.mem_map_of_mem hr
  obtain ⟨label, -, hlabel⟩ := List.mem_map.mp hname
  exact group_of_name hphase hlabel.symm

theorem PhaseRecords.nodup {phase : String} {part : List Record} (h : PhaseRecords phase part) :
    (part.map Record.name).Nodup := by
  obtain ⟨labels, distinct, hnames⟩ := h.labelled
  rw [hnames]
  exact distinct.map fun s t hst => (String.append_right_inj _).mp hst

/-! ### What several phases leave -/

section Parts

variable {kept : List String} {parts : List (List Record)}

theorem group_mem (h : List.Forall₂ Grouped kept parts) :
    ∀ r ∈ parts.flatten, r.group ∈ kept := by
  induction h with
  | nil => exact fun r hr => absurd hr List.not_mem_nil
  | cons hpart _ ih =>
    intro r hr
    rw [List.flatten_cons, List.mem_append] at hr
    rcases hr with hr | hr
    · exact hpart.2 r hr ▸ List.mem_cons_self
    · exact List.mem_cons_of_mem _ (ih r hr)

/-- What phases of distinct names leave is told apart by groups. -/
theorem map_filter_group (h : List.Forall₂ Grouped kept parts) (distinct : kept.Nodup) :
    (kept.map fun phase => parts.flatten.filter fun r => r.group = phase) = parts := by
  induction h with
  | nil => rfl
  | @cons phase part kept parts hpart hparts ih =>
    obtain ⟨hnew, distinct⟩ := List.nodup_cons.mp distinct
    have hown : part.filter (fun r => r.group = phase) = part :=
      List.filter_eq_self.mpr fun r hr => decide_eq_true (hpart.2 r hr)
    have hnone : parts.flatten.filter (fun r => r.group = phase) = [] := by
      refine List.filter_eq_nil_iff.mpr fun r hr hgroup => hnew ?_
      exact of_decide_eq_true hgroup ▸ group_mem hparts r hr
    have hothers : ∀ other ∈ kept, part.filter (fun r => r.group = other) = [] := by
      intro other hother
      refine List.filter_eq_nil_iff.mpr fun r hr hgroup => hnew ?_
      exact (hpart.2 r hr).symm.trans (of_decide_eq_true hgroup) ▸ hother
    have hrest : (kept.map fun other => (part ++ parts.flatten).filter fun r => r.group = other) =
        kept.map fun other => parts.flatten.filter fun r => r.group = other := by
      refine List.map_congr_left fun other hother => ?_
      rw [List.filter_append, hothers other hother, List.nil_append]
    rw [List.map_cons, List.flatten_cons, hrest, ih distinct, List.filter_append, hown, hnone,
      List.append_nil]

/-- Records of one name are of one group, so the names of different phases never meet. -/
theorem nodup_names_of_parts (h : List.Forall₂ Grouped kept parts) (distinct : kept.Nodup)
    (own : ∀ part ∈ parts, (part.map Record.name).Nodup) :
    (parts.flatten.map Record.name).Nodup := by
  induction h with
  | nil => exact List.nodup_nil
  | @cons phase part kept parts hpart hparts ih =>
    obtain ⟨hnew, distinct⟩ := List.nodup_cons.mp distinct
    obtain ⟨hfirst, own⟩ := List.forall_mem_cons.mp own
    rw [List.flatten_cons, List.map_append, List.nodup_append]
    refine ⟨hfirst, ih distinct own, fun name hname other hother heq => hnew ?_⟩
    obtain ⟨r, hr, rfl⟩ := List.mem_map.mp hname
    obtain ⟨s, hs, rfl⟩ := List.mem_map.mp hother
    have hgroup : r.group = s.group := by rw [Record.group, Record.group, heq]
    exact ((hpart.2 r hr).symm.trans hgroup) ▸ group_mem hparts s hs

/-! ### Counting by groups -/

/-- The records of a phase, counted. -/
def PhaseCount.ofRecords (phase : String) (own : List Record) : PhaseCount :=
  ⟨phase, own.countP (·.status = .pass), own.countP (·.status = .fail),
    own.countP (·.status = .skip)⟩

theorem PhaseCount.pos_ofRecords {phase : String} {own : List Record} (h : own ≠ []) :
    0 < (ofRecords phase own).passed + (ofRecords phase own).failed +
      (ofRecords phase own).skipped := by
  obtain ⟨r, rest, rfl⟩ := List.exists_cons_of_ne_nil h
  cases hstatus : r.status <;> simp only [ofRecords, List.countP_cons, hstatus] <;> grind

theorem filter_group_ne_nil_iff (h : List.Forall₂ Grouped kept parts) {phase : String} :
    (parts.flatten.filter fun r => r.group = phase) ≠ [] ↔ phase ∈ kept := by
  constructor
  · intro hsome
    obtain ⟨r, hr⟩ := List.exists_mem_of_ne_nil _ hsome
    obtain ⟨hr, hgroup⟩ := List.mem_filter.mp hr
    exact of_decide_eq_true hgroup ▸ group_mem h r hr
  · intro hphase
    obtain ⟨j, hj, rfl⟩ := List.getElem_of_mem hphase
    obtain ⟨hlength, hget⟩ := List.forall₂_iff_get.mp h
    obtain ⟨hpart, hgroup⟩ := hget j hj (hlength ▸ hj)
    obtain ⟨r, hr⟩ := List.exists_mem_of_ne_nil _ hpart
    refine List.ne_nil_of_mem (List.mem_filter.mpr ⟨?_, decide_eq_true (hgroup r hr)⟩)
    exact List.mem_flatten.mpr ⟨_, List.get_mem parts _, hr⟩

/-- Exactly the phases that left something are counted. -/
theorem phaseCounts_eq {keep : String → Bool} {report : Report}
    (h : List.Forall₂ Grouped (phases.filter keep) parts)
    (hrecords : report.records = parts.flatten) :
    phaseCounts report = (phases.filter keep).map fun phase =>
      .ofRecords phase (parts.flatten.filter fun r => r.group = phase) := by
  rw [← List.filterMap_eq_map, List.filterMap_filter, phaseCounts, hrecords]
  refine List.filterMap_congr fun phase hphase => ?_
  have hkeep : keep phase = true ↔ (parts.flatten.filter fun r => r.group = phase) ≠ [] := by
    rw [filter_group_ne_nil_iff h, List.mem_filter]
    exact ⟨fun hkeep => ⟨hphase, hkeep⟩, And.right⟩
  by_cases hown : (parts.flatten.filter fun r => r.group = phase) = []
  · rw [if_pos (List.isEmpty_iff.mpr hown), if_neg fun hk => hkeep.mp hk hown]
  · rw [if_neg fun hempty => hown (List.isEmpty_iff.mp hempty), if_pos (hkeep.mpr hown)]
    rfl

/-- A column that counts the records of each phase sums up to the count over all records. -/
theorem sum_phaseCounts {keep : String → Bool} {report : Report}
    (h : List.Forall₂ Grouped (phases.filter keep) parts)
    (hrecords : report.records = parts.flatten) {column : PhaseCount → Nat} {p : Record → Bool}
    (hcolumn : ∀ phase own, column (.ofRecords phase own) = own.countP p) :
    ((phaseCounts report).map column).sum = report.records.countP p := by
  have distinct : (phases.filter keep).Nodup := List.Nodup.filter keep (by decide)
  have hparts : (phaseCounts report).map column = parts.map (List.countP p) := by
    rw [phaseCounts_eq h hrecords, List.map_map]
    conv_rhs => rw [← map_filter_group h distinct, List.map_map]
    exact List.map_congr_left fun phase _ => hcolumn phase _
  rw [hparts, hrecords, List.countP_flatten]

end Parts

theorem exists_kept {keep : String → Bool} {all : List String} {parts : List (List Record)}
    (h : List.Forall₂ (KeptRecords keep) all parts) :
    ∃ kept, kept.flatten = parts.flatten ∧ List.Forall₂ PhaseRecords (all.filter keep) kept := by
  induction h with
  | nil => exact ⟨[], rfl, .nil⟩
  | @cons phase part _ _ hpart _ ih =>
    obtain ⟨kept, hflat, hkept⟩ := ih
    rw [KeptRecords] at hpart
    split at hpart
    · next hkeep =>
      refine ⟨part :: kept, ?_, ?_⟩
      · rw [List.flatten_cons, List.flatten_cons, hflat]
      · rw [List.filter_cons_of_pos hkeep]
        exact .cons hpart hkept
    · next hkeep =>
      refine ⟨kept, ?_, ?_⟩
      · rw [List.flatten_cons, hpart, List.nil_append, hflat]
      · rw [List.filter_cons_of_neg hkeep]
        exact hkept

/-- What the phases leave, one after the other, makes a report in the phases that are kept. -/
theorem Report.phased_of_parts {keep : String → Bool} {parts : List (List Record)}
    (h : List.Forall₂ (KeptRecords keep) phases parts) (title : String) :
    Report.Phased (phases.filter keep) ⟨title, parts.flatten⟩ := by
  have distinct : (phases.filter keep).Nodup := List.Nodup.filter keep (by decide)
  obtain ⟨kept, hflat, hkept⟩ := exists_kept h
  rw [← hflat]
  have hget := (List.forall₂_iff_get.mp hkept).2
  have grouped : List.Forall₂ Grouped (phases.filter keep) kept := by
    refine List.forall₂_iff_get.mpr ⟨hkept.length_eq, fun j hj hj' => ?_⟩
    have hphase := (List.mem_filter.mp (List.get_mem (phases.filter keep) ⟨j, hj⟩)).1
    exact (hget j hj hj').grouped (slash_not_mem _ hphase)
  have own : ∀ part ∈ kept, (part.map Record.name).Nodup := by
    intro part hpart
    obtain ⟨j, hj, rfl⟩ := List.getElem_of_mem hpart
    exact (hget j (hkept.length_eq ▸ hj) hj).nodup
  have hcounts : phaseCounts ⟨title, kept.flatten⟩ = _ := phaseCounts_eq grouped rfl
  refine ⟨⟨kept, rfl, grouped⟩, nodup_names_of_parts grouped distinct own, ?_, ?_,
    sum_phaseCounts grouped rfl fun _ _ => rfl, sum_phaseCounts grouped rfl fun _ _ => rfl,
    sum_phaseCounts grouped rfl fun _ _ => rfl⟩
  · rw [hcounts, List.map_map]
    exact List.map_id _
  · intro c hc
    rw [hcounts] at hc
    obtain ⟨phase, hphase, rfl⟩ := List.mem_map.mp hc
    exact PhaseCount.pos_ofRecords ((filter_group_ne_nil_iff grouped).mpr hphase)

end GatewayProbe

import StringsAudit.Audit
import StringsAudit.Proofs.Sorting

/-!
# What is told of a report

The rows of a report are its findings in the order of their paths, the identifiers of each in
order. They do not depend on the order in which the findings were entered, so neither do the
listing and the summary.
-/

set_option autoImplicit false

namespace StringsAudit

namespace Table

variable {α : Type} {table other : Table α}

/-- Tables that give the same values to all names have the same entries. -/
theorem perm_of_get?_eq (h : table.names.Nodup) (ho : other.names.Nodup)
    (same : ∀ name, table.get? name = other.get? name) : table.Perm other := by
  have distinct : ∀ a b : Text × α, a.1 ≠ b.1 → a ≠ b := fun _ _ => mt (congrArg Prod.fst)
  apply (List.perm_ext_iff_of_nodup (List.Pairwise.of_map Prod.fst distinct h)
    (List.Pairwise.of_map Prod.fst distinct ho)).mpr
  intro entry
  rw [mem_iff_get? h, mem_iff_get? ho, same]

end Table

namespace Report

variable {report other : Report} {ns : Namespace}

theorem sortedFindings_pairwise (report : Report) :
    (report.findings.mergeSort fun a b => decide (a.1 ≤ b.1)).Pairwise fun a b => a.1 < b.1 :=
  Text.pairwise_lt_mergeSort_by Prod.fst report.nodup_paths

theorem mem_sorted {row : Finding} : row ∈ report.sorted ↔
    ∃ finding ∈ report.findings, (finding.1, Text.sort finding.2) = row := by
  rw [sorted, List.mem_map]
  simp only [List.mem_mergeSort]

def SingleLined (report : Report) : Prop :=
  ∀ finding ∈ report.findings, '\n' ∉ finding.1 ∧ ∀ identifier ∈ finding.2, '\n' ∉ identifier

instance (report : Report) : Decidable report.SingleLined :=
  List.decidableBAll (fun finding : Finding =>
    '\n' ∉ finding.1 ∧ ∀ identifier ∈ finding.2, '\n' ∉ identifier) report.findings

theorem SingleLined.sorted (h : report.SingleLined) :
    ∀ row ∈ report.sorted, '\n' ∉ row.1 ∧ ∀ identifier ∈ row.2, '\n' ∉ identifier := by
  intro row hrow
  obtain ⟨finding, hf, rfl⟩ := mem_sorted.mp hrow
  obtain ⟨path, identifiers⟩ := h finding hf
  exact ⟨path, fun identifier hi => identifiers identifier ((Text.sort_perm _).mem_iff.mp hi)⟩

structure IsSorted (report : Report) (rows : List Finding) : Prop where
  ordered : (rows.map Prod.fst).Pairwise (· < ·)
  paths : (rows.map Prod.fst).Perm report.paths
  identifiers : ∀ row ∈ rows, row.2.Pairwise (· ≤ ·) ∧ row.2.Perm (report.identifiersOf row.1)

theorem sorted_isSorted (report : Report) : report.IsSorted report.sorted := by
  have names : report.sorted.map Prod.fst =
      (report.findings.mergeSort fun a b => decide (a.1 ≤ b.1)).map Prod.fst := by
    simp only [sorted, List.map_map, Function.comp_def]
  constructor
  · rw [names]
    exact List.pairwise_map.mpr report.sortedFindings_pairwise
  · rw [names]
    exact (List.mergeSort_perm _ _).map _
  · intro row hrow
    obtain ⟨finding, hf, rfl⟩ := List.mem_map.mp hrow
    have found := (Table.mem_iff_get? report.nodup_paths).mp (List.mem_mergeSort.mp hf)
    rw [identifiersOf, found]
    exact ⟨Text.sort_pairwise _, Text.sort_perm _⟩

theorem IsSorted.eq_map {rows : List Finding} (h : report.IsSorted rows) :
    rows = (rows.map Prod.fst).map fun path => (path, Text.sort (report.identifiersOf path)) := by
  have each : ∀ row ∈ rows, row = (row.1, Text.sort (report.identifiersOf row.1)) := by
    intro row hrow
    obtain ⟨ordered, found⟩ := h.identifiers row hrow
    exact Prod.ext rfl (Text.eq_sort_of_pairwise ordered found)
  rw [List.map_map]
  exact (List.map_id rows).symm.trans (List.map_congr_left each)

/-- No other rows are those of the report. -/
theorem IsSorted.eq_sorted {rows : List Finding} (h : report.IsSorted rows) :
    rows = report.sorted := by
  have ho := report.sorted_isSorted
  have names : rows.map Prod.fst = report.sorted.map Prod.fst := by
    apply Text.eq_of_pairwise_lt h.ordered ho.ordered
    intro path
    rw [h.paths.mem_iff, ho.paths.mem_iff]
  rw [h.eq_map, ho.eq_map, names]

/-- The rows tell which paths the report has and which identifiers each of them, repetitions
counted, and nothing else. -/
theorem sorted_eq_iff : report.sorted = other.sorted ↔
    (∀ path, path ∈ report.paths ↔ path ∈ other.paths) ∧
      ∀ path, (report.identifiersOf path).Perm (other.identifiersOf path) := by
  have hr := report.sorted_isSorted
  have ho := other.sorted_isSorted
  constructor
  · intro h
    have same : ∀ path, path ∈ report.paths ↔ path ∈ other.paths := by
      intro path
      rw [← hr.paths.mem_iff, h, ho.paths.mem_iff]
    refine ⟨same, ?_⟩
    intro path
    by_cases hp : path ∈ report.paths
    · have rows := hr.eq_map
      rw [h] at rows
      have listed := List.map_inj_left.mp (rows.symm.trans ho.eq_map) path
        (ho.paths.mem_iff.mpr ((same path).mp hp))
      exact Text.sort_eq_iff.mp (congrArg Prod.snd listed)
    · rw [identifiersOf, identifiersOf, Table.get?_eq_none_iff.mpr hp,
        Table.get?_eq_none_iff.mpr (mt (same path).mpr hp)]
  · rintro ⟨same, perm⟩
    have names : report.sorted.map Prod.fst = other.sorted.map Prod.fst := by
      apply Text.eq_of_pairwise_lt hr.ordered ho.ordered
      intro path
      rw [hr.paths.mem_iff, ho.paths.mem_iff]
      exact same path
    rw [hr.eq_map, ho.eq_map, names]
    apply List.map_congr_left
    intro path _
    rw [Text.sort_eq_iff.mpr (perm path)]

/-- Reports with the same table have the same rows. -/
theorem sorted_eq (h : report.findings.Perm other.findings) : report.sorted = other.sorted := by
  rw [sorted, sorted]
  apply congrArg
  have hp := (List.mergeSort_perm report.findings fun a b => decide (a.1 ≤ b.1)).trans
    (h.trans (List.mergeSort_perm other.findings fun a b => decide (a.1 ≤ b.1)).symm)
  refine hp.eq_of_pairwise ?_ report.sortedFindings_pairwise other.sortedFindings_pairwise
  intro a b _ _ hab hba
  exact absurd (List.lt_trans hab hba) (List.lt_irrefl a.1)

theorem isEmpty_eq (h : report.findings.Perm other.findings) : report.isEmpty = other.isEmpty :=
  h.isEmpty_eq

theorem output_eq (h : report.findings.Perm other.findings) :
    report.output ns = other.output ns := by
  rw [output, output, listing, listing, isEmpty_eq h, sorted_eq h]

theorem total_eq (h : report.findings.Perm other.findings) : report.total = other.total := by
  rw [total, total, (h.flatMap_right Prod.snd).length_eq]

theorem summaryHead_eq (h : report.findings.Perm other.findings) :
    report.summaryHead = other.summaryHead := by
  unfold summaryHead
  rw [h.length_eq, total_eq h]

theorem summary_eq (h : report.findings.Perm other.findings) :
    report.summary ns = other.summary ns := by
  simp only [summary, summaryHead_eq h, isEmpty_eq h, tableRows, sorted_eq h]

end Report

end StringsAudit

import StringsAudit.Table

/-!
# Reports

A report gives the abandoned identifiers of each strings file that has some. A path occurs once;
entering it again replaces its identifiers.
-/

set_option autoImplicit false

namespace StringsAudit

abbrev Finding := Text × List Text

structure Report where
  findings : Table (List Text)
  nodup_paths : findings.names.Nodup

namespace Report

def empty : Report := ⟨[], by simp [Table.names]⟩

def insert (report : Report) (path : Text) (identifiers : List Text) : Report :=
  ⟨report.findings.set path identifiers,
    Table.nodup_names_set path identifiers report.nodup_paths⟩

def ofList (findings : List Finding) : Report :=
  findings.foldl (fun report finding => report.insert finding.1 finding.2) empty

def paths (report : Report) : List Text := report.findings.names

def isEmpty (report : Report) : Bool := report.findings.isEmpty

def identifiersOf (report : Report) (path : Text) : List Text :=
  (report.findings.get? path).getD []

def total (report : Report) : Nat := (report.findings.flatMap Prod.snd).length

def sorted (report : Report) : List Finding :=
  (report.findings.mergeSort fun a b => decide (a.1 ≤ b.1)).map
    fun finding => (finding.1, Text.sort finding.2)

end Report

end StringsAudit

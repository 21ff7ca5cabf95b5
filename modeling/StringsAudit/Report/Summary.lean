import StringsAudit.Key
import StringsAudit.Report.Basic

/-!
# Step summary

The summary of a run in a continuous-integration page: the counts and, if there are findings, a
table with one row for each abandoned identifier. A bare pipe would end a table cell, so pipes
are escaped.
-/

set_option autoImplicit false

namespace StringsAudit.Report

def tableCell (text : Text) : Text := text.flatMap fun c => if c = '|' then ['\\', '|'] else [c]

def summaryHead (report : Report) : Text :=
  "### 🌍 Abandoned Strings Report\n\n**Files:** `".toList
    ++ Nat.toDigits 10 report.findings.length
    ++ "`  \n**Abandoned:** `".toList ++ Nat.toDigits 10 report.total ++ "`  \n\n".toList

def tableHead : Text :=
  "| File | Identifier | Generated Key |\n| :--- | :--- | :--- |\n".toList

def tableRow (ns : Namespace) (path identifier : Text) : Text :=
  "| ".toList ++ tableCell path ++ " | `".toList ++ tableCell identifier ++ "` | `".toList
    ++ tableCell (Key.accessor ns identifier) ++ "` |\n".toList

def tableRows (ns : Namespace) (report : Report) : Text :=
  report.sorted.flatMap fun finding => finding.2.flatMap (tableRow ns finding.1)

def summary (ns : Namespace) (report : Report) : Text :=
  report.summaryHead ++ if report.isEmpty then [] else tableHead ++ report.tableRows ns

end StringsAudit.Report

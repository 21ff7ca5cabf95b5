import StringsAudit.Key
import StringsAudit.Report.Basic

/-!
# Listing

The printed report: each path on a line, under it its identifiers with their accessor keys, then
an empty line.
-/

set_option autoImplicit false

namespace StringsAudit.Report

def listingRow (ns : Namespace) (identifier : Text) : Text :=
  "  ".toList ++ identifier ++ "  ".toList ++ Key.accessor ns identifier ++ ['\n']

def listingBlock (ns : Namespace) (finding : Finding) : Text :=
  finding.1 ++ '\n' :: finding.2.flatMap (listingRow ns) ++ ['\n']

def listing (ns : Namespace) (report : Report) : Text :=
  report.sorted.flatMap (listingBlock ns)

end StringsAudit.Report

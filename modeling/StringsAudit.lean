import StringsAudit.Main
import StringsAudit.Pool
import StringsAudit.Proofs.Separation
import StringsAudit.Proofs.Pool.Runs
import StringsAudit.Proofs.Reading
import StringsAudit.Proofs.Schedules
import StringsAudit.Proofs.Findings
import StringsAudit.Proofs.Ascii
import StringsAudit.Proofs.Naming
import StringsAudit.Proofs.Collisions
import StringsAudit.Proofs.Agreement
import StringsAudit.Proofs.Retention
import StringsAudit.Proofs.Encoding.Exact
import StringsAudit.Proofs.Encoding.Units
import StringsAudit.Proofs.Encoding.Utf8
import StringsAudit.Proofs.Encoding.Forms
import StringsAudit.Proofs.LineForms
import StringsAudit.Proofs.Comments
import StringsAudit.Proofs.LineEnds
import StringsAudit.Proofs.FileTree.Spots
import StringsAudit.Proofs.FileTree.Walking
import StringsAudit.Proofs.FileTree.Resolving
import StringsAudit.Proofs.FileTree.Growth
import StringsAudit.Proofs.Searches
import StringsAudit.Proofs.Comparison
import StringsAudit.Proofs.FileTree.Placing
import StringsAudit.Proofs.Reports
import StringsAudit.Proofs.Lines
import StringsAudit.Proofs.Listings
import StringsAudit.Proofs.Reasons
import StringsAudit.Proofs.Audits
import StringsAudit.Proofs.FileTree.Selecting
import StringsAudit.Proofs.FileTree.Listing
import StringsAudit.Proofs.Summaries
import StringsAudit.Proofs.Arguments
import StringsAudit.Proofs.Assignments
import StringsAudit.Proofs.Words
import StringsAudit.Proofs.Lowered
import StringsAudit.Proofs.Encoding.Faults
import StringsAudit.Proofs.Integers
import StringsAudit.Proofs.Mixing
import StringsAudit.Proofs.Workers

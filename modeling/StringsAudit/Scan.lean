import StringsAudit.Abandoned
import StringsAudit.Report.Basic
import StringsAudit.Source
import StringsAudit.Token

/-!
# Scans

A scan matches strings files against the usages of the source. Each file is a task of its own:
it gives its abandoned identifiers, or fails, and adds to the log. The tasks share nothing, so
the report of a scan is the merge of their results in any order. A failed task fails the scan
when all tasks have ended.
-/

set_option autoImplicit false

namespace StringsAudit

inductive ScanFailure where
  | noWorkers
  | unreadable (failure : ReadFailure)
  deriving DecidableEq, Repr

structure TaskResult where
  path : Text
  identifiers : Except ReadFailure (List Text)
  log : Log

namespace Workspace

def scanFile (ws : Workspace) (ns : Namespace) (usages : List Text) (path : Text) : TaskResult :=
  match ws.readText path with
  | .error failure => ⟨path, .error failure, []⟩
  | .ok content =>
    let found := abandoned ns usages content
    ⟨path, .ok found,
      lineLog path content ++ if found = [] then [.nothingAbandoned path] else []⟩

end Workspace

namespace TaskResult

def mergeInto (result : TaskResult) (report : Report) : Except ReadFailure Report :=
  match result.identifiers with
  | .error failure => .error failure
  | .ok [] => .ok report
  | .ok found => .ok (report.insert result.path found)

def merge (report : Report) : List TaskResult → Except ReadFailure Report
  | [] => .ok report
  | result :: rest =>
    match result.mergeInto report with
    | .error failure => .error failure
    | .ok report => merge report rest

end TaskResult

namespace Workspace

def scan (ws : Workspace) (ns : Namespace) (usages : List Text) (limit : Option Int)
    (files : List Text) : Except ScanFailure Report × Log :=
  if files = [] then (.ok .empty, [])
  else if limit.any fun n => n ≤ 0 then (.error .noWorkers, [])
  else
    let results := files.map (ws.scanFile ns usages)
    ((TaskResult.merge .empty results).mapError .unreadable, results.flatMap TaskResult.log)

def findAbandoned (ws : Workspace) (ns : Namespace) (directories : List Text) (storyboard : Bool)
    (limit : Option Int) : Except ScanFailure Report × Log :=
  let search := ws.searchLog directories
  match ws.source directories storyboard with
  | .error failure => (.error (.unreadable failure), search)
  | .ok source =>
    let (report, log) := ws.scan ns (usages ns source) limit
      (ws.findFiles [stringsExtension] directories)
    (report, search ++ search ++ log)

end Workspace

end StringsAudit

import StringsAudit.Audit
import StringsAudit.Pool

/-!
# Scans, searches and audits under any schedule

What a scan, a search or an audit gives depends on the schedule of its workers. These relations
hold of all that they can give; the functions of the same purpose compute one of them.
-/

set_option autoImplicit false

namespace StringsAudit.Workspace

def Completes (ws : Workspace) (ns : Namespace) (usages : List Text) (limit : Option Int)
    (files : List Text) (pool : Pool) : Prop :=
  Pool.Reaches (ws.scanFile ns usages) limit (Pool.initial files) pool ∧
    Pool.IsComplete (ws.scanFile ns usages) limit pool

inductive Scans (ws : Workspace) (ns : Namespace) (usages : List Text) (limit : Option Int)
    (files : List Text) : Except ScanFailure Report → Log → Prop
  | refused {n : Int} (some_file : files ≠ []) (bound : limit = some n) (no_worker : n ≤ 0) :
      Scans ws ns usages limit files (.error .noWorkers) []
  | run {pool : Pool} {outcome : Except ReadFailure Report}
      (complete : ws.Completes ns usages limit files pool) (done : pool.caller = .done outcome) :
      Scans ws ns usages limit files (outcome.mapError .unreadable) pool.log

inductive Finds (ws : Workspace) (ns : Namespace) (directories : List Text) (storyboard : Bool)
    (limit : Option Int) : Except ScanFailure Report → Log → Prop
  | unreadable {failure : ReadFailure}
      (source : ws.source directories storyboard = .error failure) :
      Finds ws ns directories storyboard limit (.error (.unreadable failure))
        (ws.searchLog directories)
  | scanned {source : Text} {outcome : Except ScanFailure Report} {log : Log}
      (read : ws.source directories storyboard = .ok source)
      (scans : ws.Scans ns (usages ns source) limit
        (ws.findFiles [stringsExtension] directories) outcome log) :
      Finds ws ns directories storyboard limit outcome
        (ws.searchLog directories ++ ws.searchLog directories ++ log)

/-- A run of an audit, with the pool of its scan. There is none before all source has been read. -/
inductive Audits (ws : Workspace) (args : List Text) : Option Pool → Outcome → Prop
  | unsearched {outcome : Outcome} (ends : ws.prepare args = .error outcome) :
      Audits ws args none outcome
  | unreadable {loaded : Workspace} {invocation : CommandLine.Invocation} {failure : ReadFailure}
      (prepared : ws.prepare args = .ok (loaded, invocation))
      (source : loaded.source invocation.directories invocation.storyboard = .error failure) :
      Audits ws args none
        (loaded.conclude invocation (loaded.searchLog invocation.directories)
          (.error (.unreadable failure)))
  | scanned {loaded : Workspace} {invocation : CommandLine.Invocation} {source : Text}
      {pool : Pool} {outcome : Except ReadFailure Report}
      (prepared : ws.prepare args = .ok (loaded, invocation))
      (read : loaded.source invocation.directories invocation.storyboard = .ok source)
      (complete : loaded.Completes loaded.environment.accessorNamespace
        (usages loaded.environment.accessorNamespace source) loaded.environment.workerLimit?
        (loaded.findFiles [stringsExtension] invocation.directories) pool)
      (done : pool.caller = .done outcome) :
      Audits ws args (some pool)
        (loaded.conclude invocation (loaded.searchLog invocation.directories ++
          loaded.searchLog invocation.directories ++ pool.log) (outcome.mapError .unreadable))

end StringsAudit.Workspace

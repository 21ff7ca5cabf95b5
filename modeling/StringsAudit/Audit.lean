import StringsAudit.CommandLine.Invocation
import StringsAudit.Console
import StringsAudit.EnvFile
import StringsAudit.Report.Listing
import StringsAudit.Report.Summary
import StringsAudit.Scan

/-!
# Audits

A whole run: the environment file is loaded, the command line read, the directories scanned, the
report printed and the step summary written. Strings files are never changed, in write mode
either. Whatever the locale, the summary file is written in UTF-8 and the output is a text that is
printed as it is.
-/

set_option autoImplicit false

namespace StringsAudit

inductive Ending where
  | finished (status : Nat)
  | stopped (stop : CommandLine.Stop)
  | envFault (fault : EnvFile.Fault)
  | scanFault (failure : ScanFailure)
  | summaryFault (path : Text) (fault : PathFault)
  deriving DecidableEq, Repr

structure Outcome where
  ending : Ending
  output : Text
  log : Log
  workspace : Workspace

def Outcome.told (console : Console) (outcome : Outcome) : Text :=
  outcome.log.flatMap console.tell

def usageHint : Text :=
  "Please provide the root directory for source code files as a command line argument.\n".toList

def banner : Text := "Searching for abandoned resource strings…\n".toList

def nothingFound : Text := "No abandoned resource strings were detected.\n".toList

def foundHead : Text := "Abandoned resource strings were detected:\n".toList

def Report.output (ns : Namespace) (report : Report) : Text :=
  if report.isEmpty then nothingFound else foundHead ++ report.listing ns

namespace Workspace

def writeSummary (ws : Workspace) (ns : Namespace) (report : Report) :
    Except (Text × PathFault) (Workspace × Bool) :=
  match ws.environment.summaryPath? with
  | none => .ok (ws, false)
  | some path =>
    match ws.tree.append ws.here path (Encoding.Utf8.encode (report.summary ns)) with
    | .error fault => .error (path, fault)
    | .ok tree => .ok ({ ws with tree }, true)

def publish (ws : Workspace) (ns : Namespace) (report : Report) (write : Bool) (log : Log) :
    Outcome :=
  let output := banner ++ report.output ns
  let log := log ++ if write && !report.isEmpty then [.writeUnavailable] else []
  match ws.writeSummary ns report with
  | .error (path, fault) => ⟨.summaryFault path fault, output, log, ws⟩
  | .ok (ws, _) => ⟨.finished 0, output, log, ws⟩

def conclude (ws : Workspace) (invocation : CommandLine.Invocation) (log : Log) :
    Except ScanFailure Report → Outcome
  | .ok report => ws.publish ws.environment.accessorNamespace report invocation.write log
  | .error (.unreadable failure) =>
    if failure.cause = .access .embeddedNul then
      ⟨.scanFault (.unreadable failure), banner, log, ws⟩
    else ⟨.finished 1, banner, log ++ [.unreadable failure.path failure.reason], ws⟩
  | .error .noWorkers => ⟨.scanFault .noWorkers, banner, log, ws⟩

def auditDirectories (ws : Workspace) (invocation : CommandLine.Invocation) : Outcome :=
  let (answer, log) := ws.findAbandoned ws.environment.accessorNamespace invocation.directories
    invocation.storyboard ws.environment.workerLimit?
  ws.conclude invocation log answer

def prepare (ws : Workspace) (args : List Text) :
    Except Outcome (Workspace × CommandLine.Invocation) :=
  match ws.loadEnv [] with
  | (ws, .error fault) => .error ⟨.envFault fault, [], [], ws⟩
  | (ws, .ok _) =>
    match CommandLine.Invocation.parse args with
    | .error stop => .error ⟨.stopped stop, stop.output, [], ws⟩
    | .ok invocation =>
      if invocation.directories = [] then .error ⟨.finished 0, usageHint, [], ws⟩
      else .ok (ws, invocation)

def audit (ws : Workspace) (args : List Text) : Outcome :=
  match ws.prepare args with
  | .error outcome => outcome
  | .ok (ws, invocation) => ws.auditDirectories invocation

end Workspace

end StringsAudit

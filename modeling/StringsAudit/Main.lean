import StringsAudit.Audit

/-!
# Command line program

Loads what a run can see from the disk into a workspace, runs the audit there, prints its output,
shows its diagnostics on a console and adds the new text to the summary file. A file that cannot be
read stands in the workspace as a link to a name that no file can have.
-/

set_option autoImplicit false

namespace StringsAudit.Program

def unreachable : Node := .link ['\x00']

def readFile (path : String) : IO Node := do
  try
    let content ← IO.FS.readBinFile path
    return .file content.toList
  catch _ => return unreachable

partial def snapshot (path : String) : IO Node := do
  let place := (← IO.currentDir) / path
  if ← place.isDir then
    let mut entries : Table Node := []
    for entry in ← place.readDir do
      let info ← entry.path.symlinkMetadata
      let isLink := info.type matches .symlink
      let node ←
        if isLink && (← entry.path.isDir) then pure (.link ['.'])
        else snapshot entry.path.toString
      entries := entries.set entry.fileName.toList node
    return .directory entries
  else readFile path

def load (ws : Workspace) (path : Text) : IO Workspace := do
  let place := (← IO.currentDir) / String.ofList path
  if ← place.pathExists then
    return ws.mount path (← snapshot (String.ofList path))
  else return ws

def loadSummaryPlace (ws : Workspace) (path : Text) : IO Workspace := do
  let current ← IO.currentDir
  let file := current / String.ofList path
  if (ws.find? path).isSome then return ws
  else if ← file.isDir then return ws.mount path (.directory [])
  else if ← file.pathExists then return ws.mount path (.file [])
  else
    let above := Text.joinWith '/' ((Path.components path).dropLast ++ [['.']])
    if (← (current / String.ofList above).isDir) && (ws.find? above).isNone then
      return ws.mount above (.directory [])
    else return ws

def environment : IO Environment := do
  let mut table : Environment := []
  for name in [Environment.namespaceVariable, Environment.workersVariable,
      Environment.summaryVariable] do
    if let some value ← IO.getEnv (String.ofList name) then
      table := table.set name value.toList
  return table

def workspace (args : List Text) : IO Workspace := do
  let current ← IO.currentDir
  let here := Path.lexical [] current.toString.toList
  let empty : Workspace := ⟨.directory [], here, ← environment⟩
  let start := empty.mount ['.'] (.directory [])
  let mut ws ← load start EnvFile.defaultName
  let loaded := (ws.loadEnv []).1
  if let .ok invocation := CommandLine.Invocation.parse args then
    for path in invocation.directories do
      ws ← load ws path
  match loaded.environment.summaryPath? with
  | some path => loadSummaryPlace ws path
  | none => return ws

def addSummary (before after : Workspace) : IO Unit := do
  if let some path := after.environment.summaryPath? then
    match before.tree.read before.here path, after.tree.read after.here path with
    | .error _, .ok new =>
      IO.FS.withFile (String.ofList path) .append fun file => file.write ⟨new.toArray⟩
    | .ok old, .ok new =>
      IO.FS.withFile (String.ofList path) .append fun file =>
        file.write ⟨(new.drop old.length).toArray⟩
    | _, _ => return ()

def closing : Ending → Text × Nat
  | .finished status => ([], status)
  | .stopped stop => (stop.errorOutput, stop.status)
  | .envFault fault => (fault.message ++ ['\n'], 1)
  | .scanFault .noWorkers => ("there are no workers\n".toList, 1)
  | .scanFault (.unreadable failure) => (failure.reason ++ ['\n'], 1)
  | .summaryFault path fault => (fault.message path ++ ['\n'], 1)

def run (console : Console) (args : List Text) : IO UInt32 := do
  let ws ← workspace args
  let outcome := ws.audit args
  IO.print (String.ofList outcome.output)
  IO.eprint (String.ofList (outcome.told console))
  addSummary ws outcome.workspace
  let (words, status) := closing outcome.ending
  IO.eprint (String.ofList words)
  return UInt32.ofNat status

end StringsAudit.Program

def main (args : List String) : IO UInt32 :=
  StringsAudit.Program.run .plain (args.map String.toList)

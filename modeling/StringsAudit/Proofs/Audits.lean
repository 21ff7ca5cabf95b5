import StringsAudit.Proofs.FileTree.Placing
import StringsAudit.Proofs.Listings
import StringsAudit.Proofs.Reasons
import StringsAudit.Proofs.Searches

/-!
# How audits end

An audit that has directories to search ends in one of two ways, whatever the schedule of its scan.
If a file that it selects cannot be read, it names such a file, has the status 1 and changes
nothing. Otherwise it prints the report, has the status 0 and adds the summary to its file.
-/

set_option autoImplicit false

namespace StringsAudit

open CommandLine

theorem level_of_mem_lineLog {origin content : Text} {d : Diagnostic}
    (h : d ∈ lineLog origin content) : d.level = .trace := by
  obtain ⟨line, -, hd⟩ := List.mem_filterMap.mp h
  cases line with
  | malformed shown =>
    obtain rfl := Option.some.inj hd
    rfl
  | _ => cases hd

def Outcome.errors (outcome : Outcome) : List Text :=
  (outcome.log.filter fun d => d.level = .error).map Diagnostic.message

theorem message_unreadable (path reason : Text) : (Diagnostic.unreadable path reason).message =
    "cannot read file!!! ".toList ++ path ++ ": ".toList ++ reason := by
  rw [List.append_assoc _ ": ".toList]
  rfl

namespace Workspace

variable {ws loaded : Workspace} {args directories files : List Text} {storyboard : Bool}
  {ns : Namespace} {usages : List Text} {limit : Option Int} {invocation : Invocation}
  {pool : Option Pool} {outcome : Outcome}

theorem level_of_mem_scanFile {path : Text} {d : Diagnostic}
    (h : d ∈ (ws.scanFile ns usages path).log) : d.level = .trace := by
  rw [scanFile] at h
  cases hr : ws.readText path with
  | error failure =>
    rw [hr] at h
    cases h
  | ok content =>
    rw [hr] at h
    rcases List.mem_append.mp h with hd | hd
    · exact level_of_mem_lineLog hd
    · split at hd
      · rw [List.mem_singleton.mp hd]
        rfl
      · cases hd

theorem level_of_mem_searchLog {d : Diagnostic} (h : d ∈ ws.searchLog directories) :
    d.level = .trace := by
  obtain ⟨path, -, rfl⟩ := List.mem_map.mp h
  rfl

/-- Searches tell nothing but traces. -/
theorem level_of_finds {answer : Except ScanFailure Report} {log : Log}
    (h : ws.Finds ns directories storyboard limit answer log) : ∀ d ∈ log, d.level = .trace := by
  intro d hd
  cases h with
  | unreadable => exact level_of_mem_searchLog hd
  | scanned read scans =>
    rcases List.mem_append.mp hd with hs | hd
    · rcases List.mem_append.mp hs with hs | hs
      · exact level_of_mem_searchLog hs
      · exact level_of_mem_searchLog hs
    · cases scans with
      | refused => cases hd
      | run complete done =>
        have consistent := Pool.consistent_run (ws.scanFile_path ns _) complete.1
        have told := consistent.logs.mem_iff.mp (List.mem_append_left _ hd)
        obtain ⟨path, -, hp⟩ := List.mem_flatMap.mp told
        exact level_of_mem_scanFile hp

theorem loadEnv_tree (ws : Workspace) (path : Text) :
    (ws.loadEnv path).1.tree = ws.tree ∧ (ws.loadEnv path).1.here = ws.here := by
  rw [loadEnv]
  split
  · exact ⟨rfl, rfl⟩
  · split <;> exact ⟨rfl, rfl⟩
  · exact ⟨rfl, rfl⟩

theorem prepare_eq {found : Bool} (env : ws.loadEnv [] = (loaded, .ok found))
    (parsed : Invocation.parse args = .ok invocation) (hd : invocation.directories ≠ []) :
    ws.prepare args = .ok (loaded, invocation) := by
  rw [prepare, env]
  simp [parsed, hd]

/-- The computed outcome is that of one of the runs. -/
theorem audit_audits (ws : Workspace) (args : List Text) :
    ∃ pool, ws.Audits args pool (ws.audit args) := by
  cases hp : ws.prepare args with
  | error outcome =>
    have he : ws.audit args = outcome := by rw [audit, hp]
    exact ⟨none, he ▸ .unsearched hp⟩
  | ok prepared =>
    obtain ⟨loaded, invocation⟩ := prepared
    cases hs : loaded.source invocation.directories invocation.storyboard with
    | error failure =>
      have he : ws.audit args = loaded.conclude invocation
          (loaded.searchLog invocation.directories) (.error (.unreadable failure)) := by
        simp only [audit, hp, auditDirectories, findAbandoned, hs]
      exact ⟨none, he ▸ .unreadable hp hs⟩
    | ok source =>
      have hl : ∀ n, loaded.environment.workerLimit? = some n → 0 < n :=
        fun _ => Environment.workerLimit?_pos
      obtain ⟨pool, outcome, complete, done, scanned⟩ := scan_completes hl loaded
        loaded.environment.accessorNamespace
        (StringsAudit.usages loaded.environment.accessorNamespace source)
        (loaded.findFiles [stringsExtension] invocation.directories)
      have he : ws.audit args = loaded.conclude invocation
          (loaded.searchLog invocation.directories ++ loaded.searchLog invocation.directories ++
            pool.log) (outcome.mapError .unreadable) := by
        simp only [audit, hp, auditDirectories, findAbandoned, hs, scanned]
      exact ⟨some pool, he ▸ .scanned hp hs complete done⟩

/-- Every audit that searches concludes from what its search gave, and a search that has read all
source is the only one with a pool. -/
theorem finds_of_audits (prepared : ws.prepare args = .ok (loaded, invocation))
    (h : ws.Audits args pool outcome) :
    (∃ answer log, outcome = loaded.conclude invocation log answer ∧
      loaded.Finds loaded.environment.accessorNamespace invocation.directories
        invocation.storyboard loaded.environment.workerLimit? answer log) ∧
    (pool ≠ none → ∀ path ∈ loaded.sourceFiles invocation.directories invocation.storyboard,
      loaded.Readable path) := by
  cases h with
  | unsearched ends =>
    rw [prepared] at ends
    cases ends
  | unreadable prepared' source =>
    obtain ⟨rfl, rfl⟩ := Prod.mk.inj (Except.ok.inj (prepared.symm.trans prepared'))
    exact ⟨⟨_, _, rfl, .unreadable source⟩, fun hn => absurd rfl hn⟩
  | scanned prepared' read complete done =>
    obtain ⟨rfl, rfl⟩ := Prod.mk.inj (Except.ok.inj (prepared.symm.trans prepared'))
    exact ⟨⟨_, _, rfl, .scanned read (.run complete done)⟩, fun _ => (source_ok read).1⟩

inductive AddsSummary (before : Workspace) (text : Text) : Workspace → Prop
  | unnamed (none_named : before.environment.summaryPath? = none) : AddsSummary before text before
  | added {path : Text} {place : Location} {tree : Node}
      (named : before.environment.summaryPath? = some path)
      (opens : before.tree.OpensAt before.here path place)
      (adds : before.tree.AddsTo tree place (Encoding.Utf8.encode text)) :
      AddsSummary before text { before with tree }

theorem AddsSummary.addsTo {before after : Workspace} {text path : Text} {place : Location}
    (h : before.AddsSummary text after) (named : before.environment.summaryPath? = some path)
    (opens : before.tree.OpensAt before.here path place) :
    before.tree.AddsTo after.tree place (Encoding.Utf8.encode text) := by
  cases h with
  | unnamed none_named => cases named.symm.trans none_named
  | added named' opens' adds =>
    obtain rfl := Option.some.inj (named.symm.trans named')
    obtain rfl := Except.ok.inj (opens.located.symm.trans opens'.located)
    exact adds

def CanSummarize (ws : Workspace) : Prop :=
  ∀ path, ws.environment.summaryPath? = some path → ∃ place, ws.tree.OpensAt ws.here path place

theorem writeSummary_eq (h : ws.CanSummarize) (ns : Namespace) (report : Report) :
    ∃ after written, ws.writeSummary ns report = .ok (after, written) ∧
      ws.AddsSummary (report.summary ns) after := by
  rw [writeSummary]
  cases hp : ws.environment.summaryPath? with
  | none => exact ⟨ws, false, rfl, .unnamed hp⟩
  | some path =>
    obtain ⟨place, opens⟩ := h path hp
    obtain ⟨tree, added, adds⟩ := opens.addsTo (Encoding.Utf8.encode (report.summary ns))
    exact ⟨{ ws with tree }, true, by simp only [added], .added hp opens adds⟩

theorem banner_eq_endLines :
    banner = Text.endLines ["Searching for abandoned resource strings…".toList] := by
  cbv

theorem output_eq_endLines (ns : Namespace) (report : Report) :
    banner ++ report.output ns = Text.endLines
      ("Searching for abandoned resource strings…".toList ::
        if report.findings = [] then ["No abandoned resource strings were detected.".toList]
        else "Abandoned resource strings were detected:".toList ::
          report.sorted.flatMap (Report.blockLines ns)) := by
  have none_found :
      nothingFound = Text.endLines ["No abandoned resource strings were detected.".toList] := by
    cbv
  have some_found :
      foundHead = Text.endLines ["Abandoned resource strings were detected:".toList] := by
    cbv
  rw [Report.output, Report.isEmpty, Report.listing_eq_endLines, banner_eq_endLines,
    none_found, some_found]
  cases report.findings with
  | nil => exact (Text.endLines_append _ _).symm
  | cons finding findings =>
    rw [← Text.endLines_append, if_neg (by simp), ← Text.endLines_append]
    rfl

structure Fails (ws : Workspace) (invocation : Invocation) (pool : Option Pool)
    (outcome : Outcome) (failure : ReadFailure) : Prop where
  at_fault : ws.FailsOn (ws.selectedFiles invocation.directories invocation.storyboard) failure
  ending : outcome.ending = .finished 1
  output : outcome.output = Text.endLines ["Searching for abandoned resource strings…".toList]
  errors : ∃ words, failure.ToldAs words ∧
    outcome.errors = ["cannot read file!!! ".toList ++ failure.path ++ ": ".toList ++ words]
  no_worker : (∃ path ∈ ws.sourceFiles invocation.directories invocation.storyboard,
    ¬ ws.Readable path) → pool = none
  unchanged : outcome.workspace = ws

structure Publishes (ws : Workspace) (invocation : Invocation) (outcome : Outcome)
    (report : Report) : Prop where
  found : ws.Succeeds ws.environment.accessorNamespace invocation.directories
    invocation.storyboard report
  ending : outcome.ending = .finished 0
  output : ∃ rows, report.IsSorted rows ∧ outcome.output = Text.endLines
    ("Searching for abandoned resource strings…".toList ::
      if report.findings = [] then ["No abandoned resource strings were detected.".toList]
      else "Abandoned resource strings were detected:".toList ::
        rows.flatMap (Report.blockLines ws.environment.accessorNamespace))
  no_error : ∀ d ∈ outcome.log, d.level ≠ .error
  summarized : ws.AddsSummary (report.summary ws.environment.accessorNamespace) outcome.workspace

theorem Publishes.readable {report : Report} (h : ws.Publishes invocation outcome report) :
    ∀ path ∈ ws.selectedFiles invocation.directories invocation.storyboard, ws.Readable path :=
  List.forall_mem_append.mpr ⟨h.found.sources, h.found.strings⟩

theorem errors_of_traces {log : Log} (h : ∀ d ∈ log, d.level = .trace) :
    log.filter (fun d => d.level = .error) = [] := by
  rw [List.filter_eq_nil_iff]
  intro d hd
  simp [h d hd]

theorem conclude_unreadable {failure : ReadFailure} (fatal : failure.IsFatal) (log : Log) :
    ws.conclude invocation log (.error (.unreadable failure)) =
      ⟨.finished 1, banner, log ++ [.unreadable failure.path failure.reason], ws⟩ := by
  rw [conclude, if_neg fatal]

theorem fails_of_audits (clean : loaded.tree.NulFree)
    (prepared : ws.prepare args = .ok (loaded, invocation)) (h : ws.Audits args pool outcome)
    (unreadable : ¬ ∀ path ∈ loaded.selectedFiles invocation.directories invocation.storyboard,
      loaded.Readable path) :
    ∃ failure, loaded.Fails invocation pool outcome failure := by
  obtain ⟨⟨answer, log, rfl, finds⟩, read⟩ := finds_of_audits prepared h
  obtain ⟨failure, rfl, at_fault⟩ := exists_failure_of_not_readable
    (fun _ => Environment.workerLimit?_pos) unreadable finds
  have fatal := at_fault.isFatal clean
  rw [conclude_unreadable fatal]
  refine ⟨failure, at_fault, rfl, banner_eq_endLines, ⟨_, ReadFailure.toldAs_reason fatal, ?_⟩,
    ?_, rfl⟩
  · rw [Outcome.errors, List.filter_append, errors_of_traces (level_of_finds finds),
      ← message_unreadable]
    rfl
  · rintro ⟨path, hp, hn⟩
    by_contra some_pool
    exact hn (read some_pool path hp)

theorem publish_eq (h : ws.CanSummarize) (ns : Namespace) (report : Report) (write : Bool)
    (log : Log) :
    ∃ after, ws.AddsSummary (report.summary ns) after ∧ ws.publish ns report write log =
      ⟨.finished 0, banner ++ report.output ns,
        log ++ if write && !report.isEmpty then [.writeUnavailable] else [], after⟩ := by
  obtain ⟨after, written, hw, adds⟩ := writeSummary_eq h ns report
  exact ⟨after, adds, by rw [publish, hw]⟩

theorem publishes_of_audits (summary : loaded.CanSummarize)
    (prepared : ws.prepare args = .ok (loaded, invocation)) (h : ws.Audits args pool outcome)
    (readable : ∀ path ∈ loaded.selectedFiles invocation.directories invocation.storyboard,
      loaded.Readable path) :
    ∃ report, loaded.Publishes invocation outcome report := by
  obtain ⟨⟨answer, log, rfl, finds⟩, -⟩ := finds_of_audits prepared h
  obtain ⟨report, rfl⟩ := exists_report_of_readable (fun _ => Environment.workerLimit?_pos)
    readable finds
  obtain ⟨after, adds, he⟩ := publish_eq summary loaded.environment.accessorNamespace report
    invocation.write log
  rw [conclude, he]
  refine ⟨report, succeeds_of_finds finds, rfl, ⟨_, report.sorted_isSorted, ?_⟩, ?_, adds⟩
  · exact output_eq_endLines _ report
  · intro d hd
    rcases List.mem_append.mp hd with hd | hd
    · simp [level_of_finds finds d hd]
    · split at hd
      · simp [List.mem_singleton.mp hd, Diagnostic.level]
      · cases hd

theorem publish_congr {report report' : Report} (h : report.findings.Perm report'.findings)
    (write : Bool) (log log' : Log) :
    (ws.publish ns report write log).ending = (ws.publish ns report' write log').ending ∧
    (ws.publish ns report write log).output = (ws.publish ns report' write log').output ∧
    (ws.publish ns report write log).workspace = (ws.publish ns report' write log').workspace := by
  have same : ws.writeSummary ns report = ws.writeSummary ns report' := by
    rw [writeSummary, writeSummary, Report.summary_eq h]
  rw [publish, publish, same, Report.output_eq h]
  split <;> exact ⟨rfl, rfl, rfl⟩

/-- All runs of an audit come to the same, but for the log and the pool. -/
theorem same_of_audits {pool' : Option Pool} {outcome' : Outcome} (clean : loaded.tree.NulFree)
    (prepared : ws.prepare args = .ok (loaded, invocation)) (first : ws.Audits args pool outcome)
    (second : ws.Audits args pool' outcome') :
    outcome.ending = outcome'.ending ∧ outcome.output = outcome'.output ∧
      outcome.workspace = outcome'.workspace := by
  obtain ⟨⟨answer, log, rfl, finds⟩, -⟩ := finds_of_audits prepared first
  obtain ⟨⟨answer', log', rfl, finds'⟩, -⟩ := finds_of_audits prepared second
  have hl : ∀ n, loaded.environment.workerLimit? = some n → 0 < n :=
    fun _ => Environment.workerLimit?_pos
  -- two failing runs may name different files, but both keep the workspace
  by_cases readable :
    ∀ path ∈ loaded.selectedFiles invocation.directories invocation.storyboard,
      loaded.Readable path
  · obtain ⟨report, rfl⟩ := exists_report_of_readable hl readable finds
    obtain ⟨report', rfl⟩ := exists_report_of_readable hl readable finds'
    have same := (succeeds_of_finds finds).enters.get?_eq (succeeds_of_finds finds').enters
      (fun _ => Iff.rfl) (fun _ _ => rfl)
    exact publish_congr (Table.perm_of_get?_eq report.nodup_paths report'.nodup_paths same) _ _ _
  · obtain ⟨failure, rfl, fails⟩ := exists_failure_of_not_readable hl readable finds
    obtain ⟨failure', rfl, fails'⟩ := exists_failure_of_not_readable hl readable finds'
    rw [conclude_unreadable (fails.isFatal clean), conclude_unreadable (fails'.isFatal clean)]
    exact ⟨rfl, rfl, rfl⟩

abbrev ScanStep (ws : Workspace) (source : Text) : Pool → Pool → Prop :=
  Pool.Step (ws.scanFile ws.environment.accessorNamespace
    (StringsAudit.usages ws.environment.accessorNamespace source)) ws.environment.workerLimit?

/-- Whatever the scan of an audit has come to, it can be completed. -/
theorem exists_audits (prepared : ws.prepare args = .ok (loaded, invocation)) {source : Text}
    (read : loaded.source invocation.directories invocation.storyboard = .ok source) {scan : Pool}
    (run : Relation.ReflTransGen (loaded.ScanStep source)
      (Pool.initial (loaded.stringsFiles invocation.directories)) scan) :
    ∃ final outcome, Relation.ReflTransGen (loaded.ScanStep source) scan final ∧
      ws.Audits args (some final) outcome := by
  obtain ⟨final, outcome, more, done⟩ :=
    Pool.exists_done (fun _ => Environment.workerLimit?_pos) _ scan
  exact ⟨final, _, more, .scanned prepared read (completes_of_done (run.trans more) done) done⟩

/-- No run of an audit goes on forever. It ends with the status 1 and an error about one of its
files if it cannot read them all, before its scan if a source file is among them, and leaves
everything as it was. Otherwise it ends with the status 0, prints the report and adds the summary
to its file alone. -/
theorem every_audit_ends (ws loaded : Workspace) (args : List Text) (invocation : Invocation)
    (found : Bool) (clean : ws.tree.NulFree) (env : ws.loadEnv [] = (loaded, .ok found))
    (parsed : Invocation.parse args = .ok invocation)
    (some_directory : invocation.directories ≠ []) (summary : loaded.CanSummarize) :
    (loaded.tree = ws.tree ∧ loaded.here = ws.here) ∧
    (∃ pool, ws.Audits args pool (ws.audit args)) ∧
    (∀ source, loaded.source invocation.directories invocation.storyboard = .ok source →
      (WellFounded fun next scan => loaded.ScanStep source scan next) ∧
      ∀ scan, Relation.ReflTransGen (loaded.ScanStep source)
          (Pool.initial (loaded.stringsFiles invocation.directories)) scan →
        ∃ final outcome, Relation.ReflTransGen (loaded.ScanStep source) scan final ∧
          ws.Audits args (some final) outcome) ∧
    (∀ pool outcome, ws.Audits args pool outcome →
      (outcome.ending = .finished 1 ↔
        ∃ path ∈ loaded.selectedFiles invocation.directories invocation.storyboard,
          ¬ loaded.Readable path) ∧
      ((∃ failure, loaded.Fails invocation pool outcome failure) ∨
        ∃ report, loaded.Publishes invocation outcome report)) ∧
    ∀ pool pool' outcome outcome', ws.Audits args pool outcome → ws.Audits args pool' outcome' →
      outcome.ending = outcome'.ending ∧ outcome.output = outcome'.output ∧
        outcome.workspace = outcome'.workspace := by
  have prepared := prepare_eq env parsed some_directory
  have kept : loaded.tree = ws.tree ∧ loaded.here = ws.here := by
    have loads := ws.loadEnv_tree []
    rwa [env] at loads
  have clean' : loaded.tree.NulFree := kept.1 ▸ clean
  refine ⟨kept, ws.audit_audits args, ?_, ?_,
    fun _ _ _ _ first second => same_of_audits clean' prepared first second⟩
  · intro source read
    exact ⟨Pool.steps_wellFounded _ _, fun _ run => exists_audits prepared read run⟩
  · intro pool outcome h
    by_cases readable :
      ∀ path ∈ loaded.selectedFiles invocation.directories invocation.storyboard,
        loaded.Readable path
    · obtain ⟨report, publishes⟩ := publishes_of_audits summary prepared h readable
      refine ⟨?_, .inr ⟨report, publishes⟩⟩
      rw [publishes.ending]
      simpa using readable
    · obtain ⟨failure, fails⟩ := fails_of_audits clean' prepared h readable
      refine ⟨?_, .inl ⟨failure, fails⟩⟩
      rw [fails.ending]
      simpa using readable

def station (environment : Environment) : Workspace where
  tree := .directory
    [(".env".toList, .file (Encoding.Utf8.encode "GITHUB_STEP_SUMMARY=s\n".toList)),
      (['r'], .directory [("c.strings".toList,
        .file (Encoding.Utf8.encode "\"key\"\n\"used\"".toList))]),
      (['n'], .directory [("d.swift".toList, .file (Encoding.Utf8.encode "L10n.used".toList))])]
  here := []
  environment

def stationSettings : Environment := [(Environment.summaryVariable, ['s'])]

theorem station_nulFree : (station []).tree.NulFree := by
  refine .directory (by decide) ?_
  simp only [List.forall_mem_cons, List.not_mem_nil, false_imp_iff, implies_true, and_true]
  refine ⟨.file _, .directory (by decide) ?_, .directory (by decide) ?_⟩
  · exact List.forall_mem_singleton.mpr (.file _)
  · exact List.forall_mem_singleton.mpr (.file _)

theorem station_loadEnv : (station []).loadEnv [] = (station stationSettings, .ok true) := by
  cbv

def stationInvocation : Invocation := ⟨[['r'], ['n']], false, true⟩

/-- What the command line of the station asks for, and what its environment names. -/
theorem station_settings :
    Invocation.parse [['r'], ['n'], "write".toList] = .ok stationInvocation ∧
    (station stationSettings).environment.summaryPath? = some ['s'] ∧
    (station stationSettings).environment.accessorNamespace = .standard := by
  exact ⟨rfl, rfl, by cbv⟩

theorem station_opensAt :
    (station stationSettings).tree.OpensAt (station stationSettings).here ['s'] [['s']] where
  located := by cbv
  no_directory := by
    have new : (station stationSettings).tree.at? [['s']] = none := by cbv
    simp [new]

theorem station_files :
    (station stationSettings).sourceFiles [['r'], ['n']] false = ["n/d.swift".toList] ∧
    (station stationSettings).stringsFiles [['r'], ['n']] = ["r/c.strings".toList] := by
  have hr : (station stationSettings).directory? ['r'] =
      (station stationSettings).tree.at? [['r']] := by cbv
  have hn : (station stationSettings).directory? ['n'] =
      (station stationSettings).tree.at? [['n']] := by cbv
  simp only [sourceFiles, stringsFiles, findFiles, List.flatMap_cons, List.flatMap_nil,
    filesBelow, hr, hn]
  decide +kernel

theorem station_swift :
    (station stationSettings).readText "n/d.swift".toList = .ok "L10n.used".toList := by
  cbv

theorem station_strings : (station stationSettings).readText "r/c.strings".toList =
    .ok "\"key\"\n\"used\"".toList := by
  cbv

theorem station_readable :
    ∀ path ∈ (station stationSettings).selectedFiles stationInvocation.directories
      stationInvocation.storyboard, (station stationSettings).Readable path := by
  rw [selectedFiles, stationInvocation, station_files.1, station_files.2]
  exact List.forall_mem_cons.mpr ⟨readable_of_ok station_swift,
    List.forall_mem_singleton.mpr (readable_of_ok station_strings)⟩

def stationReport : Report := .ofList [("r/c.strings".toList, ["key".toList])]

theorem station_enters : stationReport.Enters
    ((station stationSettings).stringsFiles [['r'], ['n']])
    ((station stationSettings).abandonedIn .standard [['r'], ['n']] false) := by
  have abandons : (station stationSettings).abandonedIn .standard [['r'], ['n']] false
      "r/c.strings".toList = ["key".toList] := by
    rw [abandonedIn_eq (by decide), station_files.1, textOf_eq station_strings,
      List.map_singleton, textOf_eq station_swift]
    decide +kernel
  intro path found
  rw [station_files.2, List.mem_singleton]
  constructor
  · intro entered
    have listed : (path, found) ∈ stationReport.findings :=
      (Table.mem_iff_get? stationReport.nodup_paths).mpr entered
    obtain ⟨rfl, rfl⟩ := Prod.mk.inj (List.mem_singleton.mp listed)
    exact ⟨rfl, abandons, by decide⟩
  · rintro ⟨rfl, rfl, -⟩
    rw [abandons]
    rfl

theorem stationReport_rows :
    stationReport.sorted.flatMap (Report.blockLines .standard) =
      ["r/c.strings".toList, "  key  l10n.key".toList, []] := by
  have sorted : stationReport.sorted = [("r/c.strings".toList, ["key".toList])] := by cbv
  rw [sorted]
  rfl

theorem station_published {report : Report}
    (h : (station stationSettings).Publishes stationInvocation outcome report) :
    outcome.output = Text.endLines ["Searching for abandoned resource strings…".toList,
      "Abandoned resource strings were detected:".toList,
      "r/c.strings".toList, "  key  l10n.key".toList, []] ∧
    outcome.workspace.tree.at? [['s']] =
      some (.file (Encoding.Utf8.encode (stationReport.summary .standard))) := by
  obtain ⟨-, named, standard⟩ := station_settings
  have found := h.found
  obtain ⟨rows, sorted, output⟩ := h.output
  have adds := h.summarized.addsTo named station_opensAt
  have fresh : (station stationSettings).tree.bytesAt [['s']] = [] := by cbv
  rw [standard] at found output adds
  have same : report.findings.Perm stationReport.findings :=
    Table.perm_of_get?_eq report.nodup_paths stationReport.nodup_paths
      (found.enters.get?_eq station_enters (fun _ => Iff.rfl) fun _ _ => rfl)
  constructor
  · have filled : report.findings ≠ [] := by simp [List.perm_singleton.mp same]
    rw [output, if_neg filled, sorted.eq_sorted, Report.sorted_eq same, stationReport_rows]
  · rw [adds.added, Report.summary_eq same, fresh, List.nil_append]

/-- A strings file that is a link to nowhere, a source file and a storyboard that is no text. -/
def wreck : Workspace where
  tree := .directory
    [(['r'], .directory [("c.strings".toList, .link ['x'])]),
      (['n'], .directory [("d.swift".toList, .file (Encoding.Utf8.encode "L10n.used".toList))]),
      (['b'], .directory [("e.storyboard".toList, .file [0xFF])])]
  here := []
  environment := []

theorem wreck_nulFree : wreck.tree.NulFree := by
  refine .directory (by decide) ?_
  simp only [List.forall_mem_cons, List.not_mem_nil, false_imp_iff, implies_true, and_true]
  refine ⟨.directory (by decide) ?_, .directory (by decide) ?_, .directory (by decide) ?_⟩
  · exact List.forall_mem_singleton.mpr (.link _)
  · exact List.forall_mem_singleton.mpr (.file _)
  · exact List.forall_mem_singleton.mpr (.file _)

theorem wreck_loadEnv : wreck.loadEnv [] = (wreck, .ok false) := by
  cbv

def wreckLink : Invocation := ⟨[['r'], ['n']], false, false⟩

def wreckStoryboard : Invocation := ⟨[['n'], ['b']], true, false⟩

/-- What the command lines on the wreck ask for. Its environment names no summary file. -/
theorem wreck_settings :
    Invocation.parse [['r'], ['n']] = .ok wreckLink ∧
    Invocation.parse [['n'], ['b'], "--storyboard".toList] = .ok wreckStoryboard ∧
    wreck.CanSummarize := by
  have unnamed : Environment.summaryPath? [] = none := rfl
  refine ⟨rfl, rfl, ?_⟩
  intro path named
  cases unnamed.symm.trans named

theorem wreck_swift : wreck.readText "n/d.swift".toList = .ok "L10n.used".toList := by
  cbv

theorem wreck_strings : wreck.readText "r/c.strings".toList =
    .error ⟨"r/c.strings".toList, .access .missing⟩ := by
  cbv

theorem wreck_storyboard : wreck.readText "b/e.storyboard".toList =
    .error ⟨"b/e.storyboard".toList, .decoding ⟨.utf8, 0, 0xFF, [], .invalidStart⟩⟩ := by
  cbv

theorem wreck_files :
    wreck.selectedFiles wreckLink.directories wreckLink.storyboard =
      ["n/d.swift".toList, "r/c.strings".toList] ∧
    wreck.sourceFiles wreckStoryboard.directories wreckStoryboard.storyboard =
      ["n/d.swift".toList, "b/e.storyboard".toList] ∧
    wreck.stringsFiles wreckStoryboard.directories = [] := by
  have hr : wreck.directory? ['r'] =
      some (.directory [("c.strings".toList, .link ['x'])]) := by cbv
  have hn : wreck.directory? ['n'] = wreck.tree.at? [['n']] := by cbv
  have hb : wreck.directory? ['b'] = wreck.tree.at? [['b']] := by cbv
  have nowhere : wreck.tree.find? wreck.here (Path.join ['r'] "c.strings".toList) = none := by cbv
  have link : ∀ wanted, wreck.tree.walk wreck.here wanted ['r']
      (.directory [("c.strings".toList, .link ['x'])]) = _ :=
    fun _ => Node.walk_link (by decide +kernel) (by decide +kernel) nowhere
  simp only [wreckLink, wreckStoryboard, selectedFiles, findFiles, List.flatMap_cons,
    List.flatMap_nil, filesBelow, hr, hn, hb, link]
  decide +kernel

theorem Fails.errors_eq {failure : ReadFailure} {words : Text}
    (h : ws.Fails invocation pool outcome failure) (told : failure.ToldAs words) :
    outcome.errors = ["cannot read file!!! ".toList ++ failure.path ++ ": ".toList ++ words] := by
  obtain ⟨other, known, errors⟩ := h.errors
  rw [errors, known.unique told]

theorem FailsOn.eq_of_pair {first second text : Text} {failure other : ReadFailure}
    (h : ws.FailsOn [first, second] failure) (read : ws.readText first = .ok text)
    (unreadable : ws.readText second = .error other) : failure = other := by
  obtain ⟨selected, fails⟩ := h
  rcases List.mem_cons.mp selected with path | selected
  · rw [path, read] at fails
    cases fails
  · rw [List.mem_singleton.mp selected, unreadable] at fails
    exact (Except.error.inj fails).symm

theorem wreckLink_errors {failure : ReadFailure}
    (h : wreck.Fails wreckLink pool outcome failure) :
    outcome.errors = ["cannot read file!!! ".toList ++ "r/c.strings".toList ++ ": ".toList ++
      ("[Errno ".toList ++ "2".toList ++ "] ".toList ++ "No such file or directory".toList ++
        ": ".toList ++ "'r/c.strings'".toList)] := by
  have at_fault := h.at_fault
  rw [wreck_files.1] at at_fault
  obtain rfl := at_fault.eq_of_pair wreck_swift wreck_strings
  have quotes : Text.quoted "r/c.strings".toList = "'r/c.strings'".toList := rfl
  rw [h.errors_eq (.system (.head _)), quotes]

theorem wreckStoryboard_errors {failure : ReadFailure}
    (h : wreck.Fails wreckStoryboard pool outcome failure) : pool = none ∧
    outcome.errors = ["cannot read file!!! ".toList ++ "b/e.storyboard".toList ++ ": ".toList ++
      ("'".toList ++ "utf-8".toList ++ "' codec can't decode ".toList ++ "byte 0x".toList ++
        "ff".toList ++ " in position ".toList ++ "0".toList ++ ": ".toList ++
        "invalid start byte".toList)] := by
  have at_fault := h.at_fault
  rw [selectedFiles, wreck_files.2.1, wreck_files.2.2] at at_fault
  obtain rfl := at_fault.eq_of_pair wreck_swift wreck_storyboard
  have first : Text.hexDigits 2 (0xFF : UInt8).toNat = "ff".toList := by cbv
  have place : Nat.toDigits 10 0 = "0".toList := by cbv
  constructor
  · apply h.no_worker
    rw [wreck_files.2.1]
    exact ⟨_, by simp, not_readable_iff.mpr ⟨_, wreck_storyboard⟩⟩
  · rw [h.errors_eq (.byte rfl (.head _) (.head _)), first, place]

/-- A run with findings, which makes the summary file, and two runs that fail, on a strings file and
on a source file. -/
theorem every_audit_ends_station :
    ((station []).tree.NulFree ∧ (station []).loadEnv [] = (station stationSettings, .ok true) ∧
      Invocation.parse [['r'], ['n'], "write".toList] = .ok stationInvocation ∧
      stationInvocation.directories ≠ [] ∧ (station stationSettings).CanSummarize ∧
      (∃ pool outcome, (station []).Audits [['r'], ['n'], "write".toList] pool outcome) ∧
      ∀ pool outcome, (station []).Audits [['r'], ['n'], "write".toList] pool outcome →
        outcome.ending = .finished 0 ∧
        outcome.output = Text.endLines ["Searching for abandoned resource strings…".toList,
          "Abandoned resource strings were detected:".toList,
          "r/c.strings".toList, "  key  l10n.key".toList, []] ∧
        outcome.workspace.tree.at? [['s']] =
          some (.file (Encoding.Utf8.encode (stationReport.summary .standard)))) ∧
    (wreck.tree.NulFree ∧ wreck.loadEnv [] = (wreck, .ok false) ∧ wreck.CanSummarize ∧
      Invocation.parse [['r'], ['n']] = .ok wreckLink ∧ wreckLink.directories ≠ [] ∧
      (∃ pool outcome, wreck.Audits [['r'], ['n']] pool outcome) ∧
      (∀ pool outcome, wreck.Audits [['r'], ['n']] pool outcome →
        outcome.ending = .finished 1 ∧
        outcome.output = Text.endLines ["Searching for abandoned resource strings…".toList] ∧
        outcome.errors = ["cannot read file!!! ".toList ++ "r/c.strings".toList ++ ": ".toList ++
          ("[Errno ".toList ++ "2".toList ++ "] ".toList ++ "No such file or directory".toList ++
            ": ".toList ++ "'r/c.strings'".toList)] ∧
        outcome.workspace = wreck) ∧
      Invocation.parse [['n'], ['b'], "--storyboard".toList] = .ok wreckStoryboard ∧
      wreckStoryboard.directories ≠ [] ∧
      (∃ pool outcome, wreck.Audits [['n'], ['b'], "--storyboard".toList] pool outcome) ∧
      ∀ pool outcome, wreck.Audits [['n'], ['b'], "--storyboard".toList] pool outcome →
        pool = none ∧ outcome.ending = .finished 1 ∧
        outcome.output = Text.endLines ["Searching for abandoned resource strings…".toList] ∧
        outcome.errors = ["cannot read file!!! ".toList ++ "b/e.storyboard".toList ++
          ": ".toList ++ ("'".toList ++ "utf-8".toList ++ "' codec can't decode ".toList ++
            "byte 0x".toList ++ "ff".toList ++ " in position ".toList ++ "0".toList ++
            ": ".toList ++ "invalid start byte".toList)] ∧
        outcome.workspace = wreck) := by
  obtain ⟨station_parse, named, -⟩ := station_settings
  obtain ⟨link_parse, storyboard_parse, wreck_summary⟩ := wreck_settings
  have summary : (station stationSettings).CanSummarize := by
    intro path path_named
    obtain rfl := Option.some.inj (named.symm.trans path_named)
    exact ⟨_, station_opensAt⟩
  obtain ⟨-, ⟨first, runs⟩, -, ends, -⟩ := every_audit_ends (station []) (station stationSettings)
    [['r'], ['n'], "write".toList] stationInvocation true station_nulFree station_loadEnv
    station_parse (by decide) summary
  obtain ⟨-, ⟨second, link_runs⟩, -, link_ends, -⟩ := every_audit_ends wreck wreck
    [['r'], ['n']] wreckLink false wreck_nulFree wreck_loadEnv link_parse (by decide) wreck_summary
  obtain ⟨-, ⟨third, storyboard_runs⟩, -, storyboard_ends, -⟩ := every_audit_ends wreck wreck
    [['n'], ['b'], "--storyboard".toList] wreckStoryboard false wreck_nulFree wreck_loadEnv
    storyboard_parse (by decide) wreck_summary
  refine ⟨⟨station_nulFree, station_loadEnv, station_parse, by decide, summary,
    ⟨first, _, runs⟩, ?_⟩, wreck_nulFree, wreck_loadEnv, wreck_summary, link_parse,
    by decide, ⟨second, _, link_runs⟩, ?_, storyboard_parse, by decide,
    ⟨third, _, storyboard_runs⟩, ?_⟩
  · intro pool outcome h
    obtain ⟨-, ⟨failure, fails⟩ | ⟨report, publishes⟩⟩ := ends pool outcome h
    · exact absurd fails.at_fault.2 (station_readable _ fails.at_fault.1).ne_error
    · exact ⟨publishes.ending, station_published publishes⟩
  · intro pool outcome h
    obtain ⟨-, ⟨failure, fails⟩ | ⟨report, publishes⟩⟩ := link_ends pool outcome h
    · exact ⟨fails.ending, fails.output, wreckLink_errors fails, fails.unchanged⟩
    · have readable := publishes.readable
      rw [wreck_files.1] at readable
      exact absurd wreck_strings (readable _ (.tail _ (.head _))).ne_error
  · intro pool outcome h
    obtain ⟨-, ⟨failure, fails⟩ | ⟨report, publishes⟩⟩ := storyboard_ends pool outcome h
    · obtain ⟨no_pool, errors⟩ := wreckStoryboard_errors fails
      exact ⟨no_pool, fails.ending, fails.output, errors, fails.unchanged⟩
    · have readable := publishes.found.sources
      rw [wreck_files.2.1] at readable
      exact absurd wreck_storyboard (readable _ (.tail _ (.head _))).ne_error

end Workspace

end StringsAudit

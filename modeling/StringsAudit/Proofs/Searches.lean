import StringsAudit.Proofs.FileTree.Walking
import StringsAudit.Proofs.Findings

/-!
# What searches come to

A search that succeeds has read all files that it selects and enters those with identifiers that
no source file uses. A search with room for a worker fails just if some file that it selects cannot
be read, and it tells of such a file.
-/

set_option autoImplicit false

namespace StringsAudit

namespace Report

variable {report : Report} {files : List Text} {list : Text → List Text}

def Enters (report : Report) (files : List Text) (list : Text → List Text) : Prop :=
  ∀ path found, report.findings.get? path = some found ↔
    path ∈ files ∧ list path = found ∧ found ≠ []

theorem Enters.identifiersOf (h : report.Enters files list) (path : Text) :
    report.identifiersOf path = if path ∈ files then list path else [] := by
  rw [Report.identifiersOf]
  cases hf : report.findings.get? path with
  | some found =>
    obtain ⟨hp, rfl, -⟩ := (h path found).mp hf
    rw [if_pos hp]
    rfl
  | none =>
    split
    next hp =>
      by_contra hne
      have he := (h path _).mpr ⟨hp, rfl, fun hn => hne hn.symm⟩
      rw [hf] at he
      cases he
    next => rfl

/-- No file is entered without identifiers. -/
theorem Enters.mem_paths_iff (h : report.Enters files list) (path : Text) :
    path ∈ report.paths ↔ report.identifiersOf path ≠ [] := by
  rw [paths, Table.mem_names_iff, Report.identifiersOf]
  cases hf : report.findings.get? path with
  | none => simp
  | some found => simpa using ((h path found).mp hf).2.2

/-- Reports that enter the same files with the same lists are the same tables. -/
theorem Enters.get?_eq {report' : Report} {files' : List Text} {list' : Text → List Text}
    (h : report.Enters files list) (h' : report'.Enters files' list')
    (hf : ∀ path, path ∈ files ↔ path ∈ files') (hl : ∀ path ∈ files, list path = list' path)
    (path : Text) : report.findings.get? path = report'.findings.get? path := by
  apply Option.ext
  intro found
  rw [h, h', ← hf]
  apply and_congr_right
  intro hp
  rw [hl path hp]

end Report

namespace Workspace

variable {ws : Workspace} {ns : Namespace} {directories files : List Text} {storyboard : Bool}
  {limit : Option Int} {path : Text}

def textOf (ws : Workspace) (path : Text) : Text :=
  match ws.readText path with
  | .ok text => text
  | .error _ => []

def Readable (ws : Workspace) (path : Text) : Prop := ws.readText path = .ok (ws.textOf path)

theorem textOf_eq {text : Text} (h : ws.readText path = .ok text) : ws.textOf path = text := by
  rw [textOf, h]

theorem readable_of_ok {text : Text} (h : ws.readText path = .ok text) : ws.Readable path := by
  rw [Readable, textOf_eq h, h]

theorem not_readable_iff : ¬ ws.Readable path ↔ ∃ failure, ws.readText path = .error failure := by
  cases h : ws.readText path with
  | ok text => simpa using readable_of_ok h
  | error failure => simp [Readable, h]

theorem Readable.ne_error (h : ws.Readable path) {failure : ReadFailure} :
    ws.readText path ≠ .error failure := by
  rw [h]
  simp

abbrev sourceFiles (ws : Workspace) (directories : List Text) (storyboard : Bool) : List Text :=
  ws.findFiles (sourceExtensions storyboard) directories

abbrev stringsFiles (ws : Workspace) (directories : List Text) : List Text :=
  ws.findFiles [stringsExtension] directories

abbrev selectedFiles (ws : Workspace) (directories : List Text) (storyboard : Bool) : List Text :=
  ws.sourceFiles directories storyboard ++ ws.stringsFiles directories

def FailsOn (ws : Workspace) (files : List Text) (failure : ReadFailure) : Prop :=
  failure.path ∈ files ∧ ws.readText failure.path = .error failure

theorem readTexts_error {failure : ReadFailure} (h : ws.readTexts files = .error failure) :
    ws.FailsOn files failure := by
  induction files with
  | nil => cases h
  | cons path files ih =>
    rw [readTexts] at h
    cases hp : ws.readText path with
    | error other =>
      rw [hp] at h
      obtain rfl := Except.error.inj h
      rw [FailsOn, readText_path hp]
      exact ⟨List.mem_cons_self, hp⟩
    | ok text =>
      rw [hp] at h
      cases hr : ws.readTexts files with
      | ok texts =>
        rw [hr] at h
        cases h
      | error other =>
        rw [hr] at h
        obtain rfl := Except.error.inj h
        obtain ⟨hm, hf⟩ := ih hr
        exact ⟨List.mem_cons_of_mem _ hm, hf⟩

theorem readTexts_ok {texts : List Text} (h : ws.readTexts files = .ok texts) :
    ∀ path ∈ files, ws.Readable path := by
  induction files generalizing texts with
  | nil => simp
  | cons path files ih =>
    rw [readTexts] at h
    cases hp : ws.readText path with
    | error other =>
      rw [hp] at h
      cases h
    | ok text =>
      rw [hp] at h
      cases hr : ws.readTexts files with
      | error other =>
        rw [hr] at h
        cases h
      | ok texts => exact List.forall_mem_cons.mpr ⟨readable_of_ok hp, ih hr⟩

theorem source_error {failure : ReadFailure}
    (h : ws.source directories storyboard = .error failure) :
    ws.FailsOn (ws.sourceFiles directories storyboard) failure := by
  rw [source] at h
  cases hr : ws.readTexts (ws.sourceFiles directories storyboard) with
  | ok texts =>
    rw [hr] at h
    cases h
  | error other =>
    rw [hr] at h
    exact Except.error.inj h ▸ readTexts_error hr

theorem source_ok {text : Text} (h : ws.source directories storyboard = .ok text) :
    (∀ path ∈ ws.sourceFiles directories storyboard, ws.Readable path) ∧
      text = Text.joinWith '\n' ((ws.sourceFiles directories storyboard).map ws.textOf) := by
  have readable : ∀ path ∈ ws.sourceFiles directories storyboard, ws.Readable path := by
    rw [source] at h
    cases hr : ws.readTexts (ws.sourceFiles directories storyboard) with
    | ok texts => exact readTexts_ok hr
    | error other =>
      rw [hr] at h
      cases h
  rw [source_of_readable readable] at h
  exact ⟨readable, (Except.ok.inj h).symm⟩

/-- A pool that answers has read all its files. -/
theorem answer_of_completes {usages : List Text} {pool : Pool} {report : Report}
    (h : ws.Completes ns usages limit files pool) (hd : pool.caller = .done (.ok report)) :
    (∀ path ∈ files, ws.Readable path) ∧
      report.Enters files fun path => abandoned ns usages (ws.textOf path) := by
  have consistent := Pool.consistent_run (ws.scanFile_path ns usages) h.1
  have holds := Pool.holds_of_answer consistent hd
  have readable : ∀ path ∈ files, ws.Readable path := by
    intro path hp
    by_contra hn
    obtain ⟨failure, hr⟩ := not_readable_iff.mp hn
    obtain ⟨found, hf⟩ := holds.readable path hp
    rw [(scanFile_error_iff ws ns usages).mpr hr] at hf
    cases hf
  exact ⟨readable, entry_of_holds holds readable⟩

theorem raise_of_completes {usages : List Text} {pool : Pool} {failure : ReadFailure}
    (h : ws.Completes ns usages limit files pool) (hd : pool.caller = .done (.error failure)) :
    ws.FailsOn files failure :=
  readText_of_failed
    (Pool.failed_of_raise (Pool.consistent_run (ws.scanFile_path ns usages) h.1) hd)

def abandonedIn (ws : Workspace) (ns : Namespace) (directories : List Text) (storyboard : Bool)
    (path : Text) : List Text :=
  abandoned ns (usages ns (Text.joinWith '\n' ((ws.sourceFiles directories storyboard).map
    ws.textOf))) (ws.textOf path)

/-- They are those that none of the source files uses. -/
theorem abandonedIn_eq (hn : '\n' ∉ ns.name) (path : Text) :
    ws.abandonedIn ns directories storyboard path = (identifiers (ws.textOf path)).filter
      (Key.IsUnused ns ((ws.sourceFiles directories storyboard).map ws.textOf)) :=
  abandoned_joinWith hn _ _

structure Succeeds (ws : Workspace) (ns : Namespace) (directories : List Text)
    (storyboard : Bool) (report : Report) : Prop where
  sources : ∀ path ∈ ws.sourceFiles directories storyboard, ws.Readable path
  strings : ∀ path ∈ ws.stringsFiles directories, ws.Readable path
  enters : report.Enters (ws.stringsFiles directories) (ws.abandonedIn ns directories storyboard)

theorem succeeds_of_finds {report : Report} {log : Log}
    (h : ws.Finds ns directories storyboard limit (.ok report) log) :
    ws.Succeeds ns directories storyboard report := by
  cases h with
  | scanned read scans =>
    obtain ⟨sources, rfl⟩ := source_ok read
    generalize ho : (Except.ok report : Except ScanFailure Report) = outcome at scans
    cases scans with
    | refused => cases ho
    | @run pool result complete done =>
      cases result with
      | error failure => cases ho
      | ok other =>
        obtain rfl := Except.ok.inj ho
        obtain ⟨strings, enters⟩ := answer_of_completes complete done
        exact ⟨sources, strings, enters⟩

theorem fails_of_finds (hl : ∀ n, limit = some n → 0 < n) {reason : ScanFailure} {log : Log}
    (h : ws.Finds ns directories storyboard limit (.error reason) log) :
    ∃ failure, reason = .unreadable failure ∧
      ws.FailsOn (ws.selectedFiles directories storyboard) failure := by
  cases h with
  | unreadable source =>
    obtain ⟨hm, hf⟩ := source_error source
    exact ⟨_, rfl, List.mem_append_left _ hm, hf⟩
  | scanned read scans =>
    generalize ho : (Except.error reason : Except ScanFailure Report) = outcome at scans
    cases scans with
    | refused some_file bound no_worker =>
      have hpos := hl _ bound
      omega
    | @run pool result complete done =>
      cases result with
      | ok report => cases ho
      | error failure =>
        obtain rfl := Except.error.inj ho
        obtain ⟨hm, hf⟩ := raise_of_completes complete done
        exact ⟨failure, rfl, List.mem_append_right _ hm, hf⟩

/-- A search succeeds if all files that it selects can be read. -/
theorem exists_report_of_readable (hl : ∀ n, limit = some n → 0 < n)
    (readable : ∀ path ∈ ws.selectedFiles directories storyboard, ws.Readable path)
    {outcome : Except ScanFailure Report} {log : Log}
    (h : ws.Finds ns directories storyboard limit outcome log) :
    ∃ report, outcome = .ok report := by
  cases outcome with
  | ok report => exact ⟨report, rfl⟩
  | error reason =>
    obtain ⟨failure, -, hm, hf⟩ := fails_of_finds hl h
    exact absurd hf (readable _ hm).ne_error

/-- Otherwise it fails on one of them. -/
theorem exists_failure_of_not_readable (hl : ∀ n, limit = some n → 0 < n)
    (unreadable : ¬ ∀ path ∈ ws.selectedFiles directories storyboard, ws.Readable path)
    {outcome : Except ScanFailure Report} {log : Log}
    (h : ws.Finds ns directories storyboard limit outcome log) :
    ∃ failure, outcome = .error (.unreadable failure) ∧
      ws.FailsOn (ws.selectedFiles directories storyboard) failure := by
  cases outcome with
  | ok report =>
    have succeeds := succeeds_of_finds h
    exact absurd (List.forall_mem_append.mpr ⟨succeeds.sources, succeeds.strings⟩) unreadable
  | error reason =>
    obtain ⟨failure, rfl, fails⟩ := fails_of_finds hl h
    exact ⟨failure, rfl, fails⟩

/-- No path in a tree without NULs makes a search fail otherwise than by a failure of reading. -/
theorem FailsOn.isFatal {failure : ReadFailure} (clean : ws.tree.NulFree)
    (h : ws.FailsOn (ws.selectedFiles directories storyboard) failure) : failure.IsFatal := by
  intro hc
  have hn := nul_of_readText h.2 hc
  rcases List.mem_append.mp h.1 with hm | hm
  · exact not_mem_of_findFiles clean hm hn
  · exact not_mem_of_findFiles clean hm hn

end Workspace

end StringsAudit

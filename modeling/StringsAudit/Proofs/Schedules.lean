import Mathlib
import StringsAudit.Proofs.Pool.Runs
import StringsAudit.Proofs.Reading
import StringsAudit.Schedule

/-!
# Schedules of a scan

All complete runs of a scan come to the same: the same report and the same diagnostics if every
file can be read, else a failure of one of the files. The scan itself is one of these runs.
-/

set_option autoImplicit false

namespace StringsAudit

namespace Workspace

variable {ws : Workspace} {ns : Namespace} {usages files : List Text} {limit : Option Int}

structure Settled (ws : Workspace) (ns : Namespace) (usages files : List Text) (pool : Pool) :
    Prop where
  paths : pool.tasks.map Task.path = files
  ended : ∀ task ∈ pool.tasks, task.hasEnded = true
  answer : ∀ text : Text → Text, (∀ path ∈ files, ws.readText path = .ok (text path)) →
    ∃ report, pool.caller = .done (.ok report) ∧
      (∀ path found, report.findings.get? path = some found ↔
        path ∈ files ∧ abandoned ns usages (text path) = found ∧ found ≠ []) ∧
      pool.log.Perm (files.flatMap fun path => lineLog path (text path) ++
        if abandoned ns usages (text path) = [] then [.nothingAbandoned path] else [])
  failure : (∃ path ∈ files, ∃ failure, ws.readText path = .error failure) →
    ∃ failure, pool.caller = .done (.error failure) ∧ failure.path ∈ files ∧
      ws.readText failure.path = .error failure

theorem scanFile_path (ws : Workspace) (ns : Namespace) (usages : List Text) (path : Text) :
    (ws.scanFile ns usages path).path = path := by
  rw [scanFile]
  split <;> rfl

theorem scanFile_of_ok {path text : Text} (h : ws.readText path = .ok text) :
    ws.scanFile ns usages path = ⟨path, .ok (abandoned ns usages text), lineLog path text ++
      if abandoned ns usages text = [] then [.nothingAbandoned path] else []⟩ := by
  rw [scanFile, h]

theorem scanFile_error_iff (ws : Workspace) (ns : Namespace) (usages : List Text) {path : Text}
    {failure : ReadFailure} :
    (ws.scanFile ns usages path).identifiers = .error failure ↔
      ws.readText path = .error failure := by
  rw [scanFile]
  split
  next hr => simp [hr]
  next hr => simp [hr]

theorem completes_of_done {pool : Pool} {outcome : Except ReadFailure Report}
    (run : Pool.Reaches (ws.scanFile ns usages) limit (Pool.initial files) pool)
    (hd : pool.caller = .done outcome) : ws.Completes ns usages limit files pool :=
  ⟨run, Pool.isComplete_of_done (Pool.consistent_run (ws.scanFile_path ns usages) run) hd⟩

/-- The report on files that can be read enters just those with abandoned identifiers. -/
theorem entry_of_holds {report : Report} {text : Text → Text}
    (h : Pool.Holds (ws.scanFile ns usages) files report)
    (ht : ∀ path ∈ files, ws.readText path = .ok (text path)) (path : Text) (found : List Text) :
    report.findings.get? path = some found ↔
      path ∈ files ∧ abandoned ns usages (text path) = found ∧ found ≠ [] := by
  rw [h.entry]
  apply and_congr_right
  intro hpath
  rw [scanFile_of_ok (ht path hpath), Except.ok.injEq]

theorem totalLog_of_readable {text : Text → Text}
    (ht : ∀ path ∈ files, ws.readText path = .ok (text path)) :
    Pool.totalLog (ws.scanFile ns usages) files = files.flatMap fun path =>
      lineLog path (text path) ++
        if abandoned ns usages (text path) = [] then [.nothingAbandoned path] else [] := by
  apply List.flatMap_congr
  intro path hpath
  rw [scanFile_of_ok (ht path hpath)]

theorem readText_of_failed {failure : ReadFailure}
    (h : Pool.Failed (ws.scanFile ns usages) files failure) :
    failure.path ∈ files ∧ ws.readText failure.path = .error failure := by
  obtain ⟨path, hpath, hf⟩ := h
  have hr := (scanFile_error_iff ws ns usages).mp hf
  rw [readText_path hr]
  exact ⟨hpath, hr⟩

theorem settled_of_completes (hl : ∀ n, limit = some n → 0 < n) {pool : Pool}
    (h : ws.Completes ns usages limit files pool) : ws.Settled ns usages files pool := by
  have consistent := Pool.consistent_run (ws.scanFile_path ns usages) h.1
  obtain ⟨outcome, hd⟩ := Pool.done_of_isComplete hl h.2
  have ended := Pool.ended_of_done consistent hd
  refine ⟨consistent.paths, ended, ?_, ?_⟩
  · intro text ht
    cases outcome with
    | ok report =>
      have holds := Pool.holds_of_answer consistent hd
      refine ⟨report, hd, entry_of_holds holds ht, ?_⟩
      rw [← totalLog_of_readable ht]
      exact Pool.log_of_ended consistent ended
    | error failure =>
      obtain ⟨hpath, hr⟩ := readText_of_failed (Pool.failed_of_raise consistent hd)
      simp [ht _ hpath] at hr
  · rintro ⟨path, hpath, failure, hr⟩
    cases outcome with
    | ok report =>
      have holds := Pool.holds_of_answer consistent hd
      obtain ⟨found, hf⟩ := holds.readable path hpath
      simp [(scanFile_error_iff ws ns usages).mpr hr] at hf
    | error failure =>
      exact ⟨failure, hd, readText_of_failed (Pool.failed_of_raise consistent hd)⟩

/-- The scan is the run that takes the files in order. -/
theorem scan_completes (hl : ∀ n, limit = some n → 0 < n) (ws : Workspace) (ns : Namespace)
    (usages files : List Text) :
    ∃ pool outcome, ws.Completes ns usages limit files pool ∧ pool.caller = .done outcome ∧
      ws.scan ns usages limit files = (outcome.mapError .unreadable, pool.log) := by
  obtain ⟨tasks, run⟩ := Pool.reaches_in_order hl (ws.scanFile ns usages) files
  refine ⟨_, _, completes_of_done run rfl, rfl, ?_⟩
  have hw : (limit.any fun n => n ≤ 0) = false := by
    cases limit with
    | none => rfl
    | some n => simpa using hl n rfl
  rw [scan]
  split
  next hn =>
    subst hn
    rfl
  next =>
    rw [hw]
    simp [Pool.totalLog, List.flatMap_map]

/-- Runs raise a failure of reading, whatever their schedule, unless a path holds a NUL. -/
theorem fatal_iff (hl : ∀ n, limit = some n → 0 < n) :
    (∀ pool failure, ws.Completes ns usages limit files pool →
      pool.caller = .done (.error failure) → failure.IsFatal) ↔
      ∀ path ∈ files, '\x00' ∉ path := by
  constructor
  · intro fatal path hpath hn
    have hf := (scanFile_error_iff ws ns usages).mpr (ws.readText_of_nul hn)
    obtain ⟨pool, run, hd⟩ := Pool.exists_raise hl hpath hf
    exact fatal pool _ (completes_of_done run hd) hd rfl
  · intro clean pool failure h hd hc
    have consistent := Pool.consistent_run (ws.scanFile_path ns usages) h.1
    obtain ⟨hpath, hr⟩ := readText_of_failed (Pool.failed_of_raise consistent hd)
    exact clean _ hpath (nul_of_readText hr hc)

/-- Every run of a scan keeps within the bound on its workers and can be completed, and none goes
on forever. All complete runs come to the same; they raise failures of reading alone just when no
path holds a NUL. -/
theorem every_schedule_settles (ws : Workspace) (ns : Namespace) (usages files : List Text)
    (limit : Option Int) (hl : ∀ n, limit = some n → 0 < n) :
    (WellFounded fun next pool => Pool.Step (ws.scanFile ns usages) limit pool next) ∧
    (∀ pool, Pool.Reaches (ws.scanFile ns usages) limit (Pool.initial files) pool →
      Pool.WithinLimit limit pool.tasks ∧
      ∃ final, Pool.Reaches (ws.scanFile ns usages) limit pool final ∧
        ws.Completes ns usages limit files final) ∧
    (∃ pool outcome, ws.Completes ns usages limit files pool ∧ pool.caller = .done outcome ∧
      ws.scan ns usages limit files = (outcome.mapError .unreadable, pool.log)) ∧
    (∀ pool, ws.Completes ns usages limit files pool → ws.Settled ns usages files pool) ∧
    ((∀ pool failure, ws.Completes ns usages limit files pool →
      pool.caller = .done (.error failure) → failure.IsFatal) ↔
        ∀ path ∈ files, '\x00' ∉ path) := by
  refine ⟨Pool.steps_wellFounded _ _, ?_, scan_completes hl ws ns usages files, ?_, fatal_iff hl⟩
  · intro pool run
    obtain ⟨final, outcome, more, hd⟩ := Pool.exists_done hl (ws.scanFile ns usages) pool
    exact ⟨Pool.withinLimit_run hl run, final, more, completes_of_done (run.trans more) hd⟩
  · intro pool h
    exact settled_of_completes hl h

theorem every_schedule_settles_repeated_path :
    (∀ n, some (2 : Int) = some n → 0 < n) ∧
    ∀ pool, Completes ⟨.directory [(['a'], .file [0x22, 0x78, 0x22])], [], []⟩ .standard []
      (some 2) [['a'], ['a']] pool →
      ∃ report, pool.caller = .done (.ok report) ∧
        report.findings.get? ['a'] = some [['x']] := by
  have hl : ∀ n, some (2 : Int) = some n → 0 < n := by
    intro n hn
    obtain rfl : 2 = n := by simpa using hn
    decide
  refine ⟨hl, ?_⟩
  intro pool h
  have readable : ∀ path ∈ [['a'], ['a']],
      readText ⟨.directory [(['a'], .file [0x22, 0x78, 0x22])], [], []⟩ path =
        .ok ['"', 'x', '"'] := by
    intro path hpath
    obtain rfl : path = ['a'] := by simpa using hpath
    cbv
  obtain ⟨-, -, -, settled, -⟩ := every_schedule_settles
    ⟨.directory [(['a'], .file [0x22, 0x78, 0x22])], [], []⟩ .standard [] [['a'], ['a']] (some 2) hl
  obtain ⟨report, hd, entry, -⟩ := (settled pool h).answer (fun _ => ['"', 'x', '"']) readable
  have found : abandoned .standard [] ['"', 'x', '"'] = [['x']] := by decide
  exact ⟨report, hd, (entry ['a'] [['x']]).mpr ⟨List.mem_cons_self, found, List.cons_ne_nil _ _⟩⟩

/-- The path of the one file holds a NUL: its task fails, and no run raises a failure of reading. -/
theorem nul_path_raises_otherwise :
    ∃ pool failure, Completes ⟨.directory [], [], []⟩ .standard [] none [['a', '\x00', 'b']] pool ∧
      pool.caller = .done (.error failure) ∧ ¬ failure.IsFatal := by
  have hl : ∀ n, (none : Option Int) = some n → 0 < n := by simp
  have hr : readText ⟨.directory [], [], []⟩ ['a', '\x00', 'b'] = .error
      ⟨['a', '\x00', 'b'], .access .embeddedNul⟩ := readText_of_nul _ (by decide)
  have hf := (scanFile_error_iff ⟨.directory [], [], []⟩ .standard []).mpr hr
  obtain ⟨pool, run, hd⟩ := Pool.exists_raise hl (List.mem_singleton.mpr rfl) hf
  exact ⟨pool, _, completes_of_done run hd, hd, fun fatal => fatal rfl⟩

end Workspace

end StringsAudit

import StringsAudit.Pool

/-!
# What a pool keeps

Every step of a pool keeps its tasks in place, each with the result of its own file, keeps the
diagnostics told and untold together what they were, and keeps the report what the taken tasks
have found. So a run that is done has the report of all files or one of their failures.
-/

set_option autoImplicit false

namespace StringsAudit

variable {scan : Text → TaskResult} {limit : Option Int} {files : List Text}

namespace Task

def IsFaithful (scan : Text → TaskResult) (task : Task) : Prop :=
  match task.stage with
  | .queued => True
  | .running result _ | .ended result | .taken result => result = scan task.path

def untold (scan : Text → TaskResult) (task : Task) : Log :=
  match task.stage with
  | .queued => (scan task.path).log
  | .running _ untold => untold
  | .ended _ | .taken _ => []

variable {task next : Task} {told : Log}

theorem works_path (h : Works scan task told next) : next.path = task.path := by
  cases h <;> rfl

theorem works_faithful (h : Works scan task told next) (hf : task.IsFaithful scan) :
    next.IsFaithful scan := by
  cases h with
  | start => rfl
  | tell => exact hf
  | finish => exact hf

theorem works_untold (h : Works scan task told next) :
    task.untold scan = told ++ next.untold scan := by
  cases h <;> rfl

theorem works_open (h : Works scan task told next) :
    task.hasEnded = false ∧ task.isTaken = false ∧ next.isTaken = false := by
  cases h <;> exact ⟨rfl, rfl, rfl⟩

end Task

namespace Pool

/-- What every step keeps, every run keeps. -/
theorem kept_by_run {kept : Pool → Prop}
    (hs : ∀ {pool next : Pool}, Step scan limit pool next → kept pool → kept next)
    {pool final : Pool} (run : Reaches scan limit pool final) (h : kept pool) : kept final := by
  induction run with
  | refl => exact h
  | tail _ step ih => exact hs step ih

def takenPaths (tasks : List Task) : List Text := (tasks.filter Task.isTaken).map Task.path

structure Holds (scan : Text → TaskResult) (paths : List Text) (report : Report) : Prop where
  entry : ∀ path found, report.findings.get? path = some found ↔
    path ∈ paths ∧ (scan path).identifiers = .ok found ∧ found ≠ []
  readable : ∀ path ∈ paths, ∃ found, (scan path).identifiers = .ok found

def Failed (scan : Text → TaskResult) (paths : List Text) (failure : ReadFailure) : Prop :=
  ∃ path ∈ paths, (scan path).identifiers = .error failure

theorem holds_empty (scan : Text → TaskResult) : Holds scan [] .empty := by
  constructor
  · intro path found
    simp [Report.empty, Table.get?]
  · simp

/-- Merging the result of one more file, which may be one that was merged before. -/
theorem holds_merge {paths more : List Text} {path : Text} {report merged : Report}
    (hp : (scan path).path = path) (h : Holds scan paths report)
    (hm : ∀ p, p ∈ more ↔ p = path ∨ p ∈ paths)
    (ok : (scan path).mergeInto report = .ok merged) : Holds scan more merged := by
  rw [TaskResult.mergeInto] at ok
  split at ok
  next => simp at ok
  next hi =>
    obtain rfl : report = merged := by simpa using ok
    constructor
    · intro p found
      rw [h.entry, hm]
      constructor
      · rintro ⟨hpath, hf⟩
        exact ⟨.inr hpath, hf⟩
      · rintro ⟨rfl | hpath, hf, hne⟩
        · rw [hi, Except.ok.injEq] at hf
          exact absurd hf.symm hne
        · exact ⟨hpath, hf, hne⟩
    · intro p hpath
      rcases (hm p).mp hpath with rfl | hpath
      · exact ⟨[], hi⟩
      · exact h.readable p hpath
  next new hne hi =>
    obtain rfl : report.insert path new = merged := by simpa [hp] using ok
    constructor
    · intro p found
      rw [Report.insert, Table.get?_set]
      by_cases he : p = path
      · subst he
        rw [if_pos rfl, hm, hi]
        constructor
        · intro hf
          obtain rfl : new = found := by simpa using hf
          exact ⟨.inl rfl, rfl, fun hn => hne hn⟩
        · rintro ⟨-, hf, -⟩
          simpa using hf
      · rw [if_neg he, h.entry, hm]
        simp [he]
    · intro p hpath
      rcases (hm p).mp hpath with rfl | hpath
      · exact ⟨new, hi⟩
      · exact h.readable p hpath

theorem failed_of_mergeInto {result : TaskResult} {report : Report} {failure : ReadFailure}
    (h : result.mergeInto report = .error failure) : result.identifiers = .error failure := by
  rw [TaskResult.mergeInto] at h
  split at h
  next hi => rw [hi, Except.error.inj h]
  next => simp at h
  next => simp at h

def Fits (scan : Text → TaskResult) (tasks : List Task) : Caller → Prop
  | .merging report => Holds scan (takenPaths tasks) report
  | .failing failure => Failed scan (takenPaths tasks) failure
  | .done (.ok report) =>
    Holds scan (takenPaths tasks) report ∧ ∀ task ∈ tasks, task.isTaken = true
  | .done (.error failure) =>
    Failed scan (takenPaths tasks) failure ∧ ∀ task ∈ tasks, task.hasEnded = true

def totalLog (scan : Text → TaskResult) (files : List Text) : Log :=
  files.flatMap fun path => (scan path).log

structure Consistent (scan : Text → TaskResult) (files : List Text) (pool : Pool) : Prop where
  paths : pool.tasks.map Task.path = files
  faithful : ∀ task ∈ pool.tasks, task.IsFaithful scan
  logs : (pool.log ++ pool.tasks.flatMap (Task.untold scan)).Perm (totalLog scan files)
  caller : Fits scan pool.tasks pool.caller

theorem consistent_initial (scan : Text → TaskResult) (files : List Text) :
    Consistent scan files (initial files) := by
  constructor
  · simp [initial, Function.comp_def]
  · intro task ht
    obtain ⟨path, -, rfl⟩ := List.mem_map.mp ht
    trivial
  · simp [initial, totalLog, List.flatMap_map, Task.untold]
  · have hn : takenPaths (files.map (⟨·, .queued⟩)) = [] := by
      simp [takenPaths, List.filter_map, Task.isTaken, Function.comp_def]
    simp only [initial, Fits, hn]
    exact holds_empty scan

theorem faithful_set {before after : List Task} {task next : Task}
    (h : ∀ t ∈ before ++ task :: after, t.IsFaithful scan)
    (hn : task.IsFaithful scan → next.IsFaithful scan) :
    ∀ t ∈ before ++ next :: after, t.IsFaithful scan := by
  obtain ⟨hb, ht⟩ := List.forall_mem_append.mp h
  obtain ⟨hf, ha⟩ := List.forall_mem_cons.mp ht
  exact List.forall_mem_append.mpr ⟨hb, List.forall_mem_cons.mpr ⟨hn hf, ha⟩⟩

theorem mem_takenPaths_taken {before after : List Task} {path p : Text} {result : TaskResult} :
    p ∈ takenPaths (before ++ ⟨path, .taken result⟩ :: after) ↔
      p = path ∨ p ∈ takenPaths (before ++ ⟨path, .ended result⟩ :: after) := by
  simp only [takenPaths, List.filter_append, List.filter_cons, Task.isTaken, if_true,
    Bool.false_eq_true, if_false, List.map_append, List.map_cons, List.mem_append, List.mem_cons]
  exact or_left_comm

theorem fits_work {before after : List Task} {task next : Task} {told : Log} {caller : Caller}
    (works : Task.Works scan task told next) (h : Fits scan (before ++ task :: after) caller) :
    Fits scan (before ++ next :: after) caller := by
  obtain ⟨he, ht, hn⟩ := Task.works_open works
  have hp : takenPaths (before ++ next :: after) = takenPaths (before ++ task :: after) := by
    simp [takenPaths, ht, hn]
  cases caller with
  | merging report => simpa [Fits, hp] using h
  | failing failure => simpa [Fits, hp] using h
  | done outcome =>
    -- a caller that is done has seen every task end, so no worker has anything left to do
    cases outcome with
    | ok report => simp [h.2 task (by simp)] at ht
    | error failure => simp [h.2 task (by simp)] at he

theorem consistent_work {before after : List Task} {task next : Task} {told log : Log}
    {caller : Caller} (works : Task.Works scan task told next)
    (h : Consistent scan files ⟨before ++ task :: after, log, caller⟩) :
    Consistent scan files ⟨before ++ next :: after, log ++ told, caller⟩ := by
  obtain ⟨hpaths, hfaithful, hlogs, hcaller⟩ := h
  refine ⟨?_, ?_, ?_, fits_work works hcaller⟩
  · simpa [Task.works_path works] using hpaths
  · exact faithful_set hfaithful (Task.works_faithful works)
  · refine List.Perm.trans ?_ hlogs
    simp only [List.flatMap_append, List.flatMap_cons, Task.works_untold works,
      List.append_assoc]
    apply List.Perm.append_left
    -- what is told now moves in front of what the earlier tasks have yet to tell
    rw [← List.append_assoc, ← List.append_assoc (before.flatMap _)]
    exact List.perm_append_comm.append_right _

/-- Taking the result of an ended task, whatever the caller makes of it. -/
theorem consistent_take {before after : List Task} {path : Text} {result : TaskResult} {log : Log}
    {caller taker : Caller}
    (h : Consistent scan files ⟨before ++ ⟨path, .ended result⟩ :: after, log, caller⟩)
    (fits : Fits scan (before ++ ⟨path, .taken result⟩ :: after) taker) :
    Consistent scan files ⟨before ++ ⟨path, .taken result⟩ :: after, log, taker⟩ := by
  obtain ⟨hpaths, hfaithful, hlogs, -⟩ := h
  refine ⟨?_, ?_, ?_, fits⟩
  · simpa using hpaths
  · exact faithful_set hfaithful id
  · simpa [Task.untold] using hlogs

theorem consistent_step (hp : ∀ path, (scan path).path = path) {pool next : Pool}
    (step : Step scan limit pool next) (h : Consistent scan files pool) :
    Consistent scan files next := by
  cases step with
  | work log caller works _ => exact consistent_work works h
  | @merge before after path result log report merged ok =>
    have hr : result = scan path := h.faithful ⟨path, .ended result⟩ (by simp)
    refine consistent_take h ?_
    exact holds_merge (hp path) h.caller (fun _ => mem_takenPaths_taken) (hr ▸ ok)
  | @fail before after path result log report failure error =>
    have hr : result = scan path := h.faithful ⟨path, .ended result⟩ (by simp)
    refine consistent_take h ⟨path, mem_takenPaths_taken.mpr (.inl rfl), ?_⟩
    rw [← hr, failed_of_mergeInto error]
  | answer log report taken => exact ⟨h.paths, h.faithful, h.logs, h.caller, taken⟩
  | raise log failure ended => exact ⟨h.paths, h.faithful, h.logs, h.caller, ended⟩

theorem consistent_run (hp : ∀ path, (scan path).path = path) {pool : Pool}
    (run : Reaches scan limit (initial files) pool) : Consistent scan files pool :=
  kept_by_run (consistent_step hp) run (consistent_initial scan files)

theorem takenPaths_all {pool : Pool} (h : Consistent scan files pool)
    (taken : ∀ task ∈ pool.tasks, task.isTaken = true) : takenPaths pool.tasks = files := by
  rw [takenPaths, List.filter_eq_self.mpr taken, h.paths]

theorem hasEnded_of_isTaken {task : Task} (h : task.isTaken = true) : task.hasEnded = true := by
  cases task with
  | mk path stage => cases stage <;> simp_all [Task.isTaken, Task.hasEnded]

theorem untold_of_hasEnded {task : Task} (h : task.hasEnded = true) : task.untold scan = [] := by
  cases task with
  | mk path stage => cases stage <;> simp_all [Task.untold, Task.hasEnded]

/-- When the caller is done, all tasks have ended. -/
theorem ended_of_done {pool : Pool} {outcome : Except ReadFailure Report}
    (h : Consistent scan files pool) (hd : pool.caller = .done outcome) :
    ∀ task ∈ pool.tasks, task.hasEnded = true := by
  have hc := h.caller
  rw [hd] at hc
  cases outcome with
  | ok report => exact fun task ht => hasEnded_of_isTaken (hc.2 task ht)
  | error failure => exact hc.2

/-- When all tasks have ended, all diagnostics have been told. -/
theorem log_of_ended {pool : Pool} (h : Consistent scan files pool)
    (ended : ∀ task ∈ pool.tasks, task.hasEnded = true) :
    pool.log.Perm (totalLog scan files) := by
  have hu : pool.tasks.flatMap (Task.untold scan) = [] :=
    List.flatMap_eq_nil_iff.mpr fun task ht => untold_of_hasEnded (ended task ht)
  simpa [hu] using h.logs

theorem holds_of_answer {pool : Pool} {report : Report} (h : Consistent scan files pool)
    (hd : pool.caller = .done (.ok report)) : Holds scan files report := by
  have hc := h.caller
  rw [hd] at hc
  obtain ⟨hh, taken⟩ := hc
  rwa [takenPaths_all h taken] at hh

theorem failed_of_raise {pool : Pool} {failure : ReadFailure} (h : Consistent scan files pool)
    (hd : pool.caller = .done (.error failure)) : Failed scan files failure := by
  have hc := h.caller
  rw [hd] at hc
  obtain ⟨⟨path, hpath, hf⟩, -⟩ := hc
  refine ⟨path, ?_, hf⟩
  rw [← h.paths]
  exact List.map_subset _ List.filter_sublist.subset hpath

end Pool

end StringsAudit

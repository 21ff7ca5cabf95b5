import StringsAudit.Proofs.Pool.Progress

/-!
# Runs of a pool

One run takes the files in order: it scans them all and then merges their results, as a list of
results is merged. And the failure of each file is raised by some run, the one in which this file
is scanned and merged before all others.
-/

set_option autoImplicit false

namespace StringsAudit

namespace Pool

variable {scan : Text → TaskResult} {limit : Option Int} {files : List Text}

def staged (stage : Text → Stage) (files : List Text) : List Task :=
  files.map fun path => ⟨path, stage path⟩

def queued (files : List Text) : List Task := staged (fun _ => .queued) files

def ended (scan : Text → TaskResult) (files : List Text) : List Task :=
  staged (fun path => .ended (scan path)) files

def taken (scan : Text → TaskResult) (files : List Text) : List Task :=
  staged (fun path => .taken (scan path)) files

theorem staged_all {p : Task → Prop} {stage : Text → Stage} (h : ∀ path, p ⟨path, stage path⟩)
    (files : List Text) : ∀ task ∈ staged stage files, p task := by
  intro task ht
  obtain ⟨path, -, rfl⟩ := List.mem_map.mp ht
  exact h path

theorem staged_append (stage : Text → Stage) (first : List Text) (path : Text)
    (tasks : List Task) :
    staged stage (first ++ [path]) ++ tasks = staged stage first ++ ⟨path, stage path⟩ :: tasks := by
  simp [staged]

theorem not_running_queued (files : List Text) : ∀ task ∈ queued files, task.isRunning = false :=
  staged_all (fun _ => rfl) files

theorem not_running_ended (scan : Text → TaskResult) (files : List Text) :
    ∀ task ∈ ended scan files, task.isRunning = false := staged_all (fun _ => rfl) files

theorem hasEnded_ended (scan : Text → TaskResult) (files : List Text) :
    ∀ task ∈ ended scan files, task.hasEnded = true := staged_all (fun _ => rfl) files

theorem isTaken_taken (scan : Text → TaskResult) (files : List Text) :
    ∀ task ∈ taken scan files, task.isTaken = true := staged_all (fun _ => rfl) files

/-- A running task tells all that it has left and ends. -/
theorem finish_task (before after : List Task) (path : Text) (result : TaskResult)
    (untold log : Log) (caller : Caller) :
    Reaches scan limit ⟨before ++ ⟨path, .running result untold⟩ :: after, log, caller⟩
      ⟨before ++ ⟨path, .ended result⟩ :: after, log ++ untold, caller⟩ := by
  induction untold generalizing log with
  | nil => exact .single (.work log caller (.finish path result) (by simp))
  | cons d untold ih =>
    have rest := ih (log ++ [d])
    rw [List.append_assoc] at rest
    exact rest.head (.work log caller (.tell path result d untold) (by simp))

/-- A queued task is run from its start to its end while no other runs. -/
theorem run_task (hl : ∀ n, limit = some n → 0 < n) (scan : Text → TaskResult)
    {before after : List Task}
    (hb : ∀ task ∈ before, task.isRunning = false) (ha : ∀ task ∈ after, task.isRunning = false)
    (path : Text) (log : Log) (caller : Caller) :
    Reaches scan limit ⟨before ++ ⟨path, .queued⟩ :: after, log, caller⟩
      ⟨before ++ ⟨path, .ended (scan path)⟩ :: after, log ++ (scan path).log, caller⟩ := by
  have room : HasRoom limit (before ++ ⟨path, .queued⟩ :: after) := by
    apply hasRoom_of_idle hl
    exact List.forall_mem_append.mpr ⟨hb, List.forall_mem_cons.mpr ⟨rfl, ha⟩⟩
  have start : Step scan limit ⟨before ++ ⟨path, .queued⟩ :: after, log, caller⟩
      ⟨before ++ ⟨path, .running (scan path) (scan path).log⟩ :: after, log ++ [], caller⟩ :=
    .work log caller (.start path) fun _ => room
  rw [List.append_nil] at start
  exact (finish_task before after path (scan path) (scan path).log log caller).head start

theorem run_tasks (hl : ∀ n, limit = some n → 0 < n) (scan : Text → TaskResult)
    (first rest : List Text) (log : Log) (caller : Caller) :
    Reaches scan limit ⟨ended scan first ++ queued rest, log, caller⟩
      ⟨ended scan (first ++ rest), log ++ totalLog scan rest, caller⟩ := by
  induction rest generalizing first log with
  | nil =>
    simp only [queued, staged, totalLog, List.map_nil, List.flatMap_nil, List.append_nil]
    exact .refl
  | cons path rest ih =>
    have one := run_task hl scan (not_running_ended scan first) (not_running_queued rest) path log
      caller
    have more := ih (first ++ [path]) (log ++ (scan path).log)
    have ht : log ++ (scan path).log ++ totalLog scan rest =
        log ++ totalLog scan (path :: rest) := by simp [totalLog]
    rw [ended, staged_append, ht, List.append_assoc, List.singleton_append] at more
    exact one.trans more

/-- The ended tasks are merged from the first to the last. -/
theorem merge_tasks (scan : Text → TaskResult) (limit : Option Int) (first rest : List Text)
    (log : Log) (report : Report) :
    ∃ tasks, Reaches scan limit
      ⟨taken scan first ++ ended scan rest, log, .merging report⟩
      ⟨tasks, log, .done (TaskResult.merge report (rest.map scan))⟩ := by
  induction rest generalizing first report with
  | nil =>
    refine ⟨_, .single (.answer log report ?_)⟩
    simpa [ended, staged] using isTaken_taken scan first
  | cons path rest ih =>
    rw [List.map_cons, TaskResult.merge]
    cases hm : (scan path).mergeInto report with
    | error failure =>
      refine ⟨_, .head (.fail _ _ path log hm) (.single (.raise log failure ?_))⟩
      have before : ∀ task ∈ taken scan first, task.hasEnded = true := by
        intro task ht
        exact hasEnded_of_isTaken (isTaken_taken scan first task ht)
      have after := hasEnded_ended scan rest
      exact List.forall_mem_append.mpr ⟨before, List.forall_mem_cons.mpr ⟨rfl, after⟩⟩
    | ok merged =>
      obtain ⟨tasks, more⟩ := ih (first ++ [path]) merged
      rw [taken, staged_append] at more
      exact ⟨tasks, more.head (.merge _ _ path log hm)⟩

/-- The run that takes the files in order. -/
theorem reaches_in_order (hl : ∀ n, limit = some n → 0 < n) (scan : Text → TaskResult)
    (files : List Text) :
    ∃ tasks, Reaches scan limit (initial files)
      ⟨tasks, totalLog scan files, .done (TaskResult.merge .empty (files.map scan))⟩ := by
  obtain ⟨tasks, merge⟩ := merge_tasks scan limit [] files (totalLog scan files) .empty
  have run := run_tasks hl scan [] files [] (.merging .empty)
  exact ⟨tasks, run.trans merge⟩

def FailedWith (failure : ReadFailure) (caller : Caller) : Prop :=
  caller = .failing failure ∨ caller = .done (.error failure)

theorem failedWith_step {failure : ReadFailure} {pool next : Pool}
    (step : Step scan limit pool next) (h : FailedWith failure pool.caller) :
    FailedWith failure next.caller := by
  cases step with
  | work => exact h
  | merge => simp [FailedWith] at h
  | fail => simp [FailedWith] at h
  | answer => simp [FailedWith] at h
  | raise log other ended =>
    obtain rfl : other = failure := by simpa [FailedWith] using h
    exact .inr rfl

/-- Each failing file has a run that raises its failure. -/
theorem exists_raise (hl : ∀ n, limit = some n → 0 < n) {path : Text} {failure : ReadFailure}
    (hpath : path ∈ files) (hf : (scan path).identifiers = .error failure) :
    ∃ final, Reaches scan limit (initial files) final ∧
      final.caller = .done (.error failure) := by
  obtain ⟨before, after, rfl⟩ := List.append_of_mem hpath
  have hm : (scan path).mergeInto .empty = .error failure := by rw [TaskResult.mergeInto, hf]
  have scanned := run_task hl scan (not_running_queued before) (not_running_queued after) path []
    (.merging .empty)
  obtain ⟨final, outcome, rest, hd⟩ := exists_done hl scan
    ⟨queued before ++ ⟨path, .taken (scan path)⟩ :: queued after, (scan path).log,
      .failing failure⟩
  have start : initial (before ++ path :: after) =
      ⟨queued before ++ ⟨path, .queued⟩ :: queued after, [], .merging .empty⟩ := by
    simp [initial, queued, staged]
  have run := scanned.trans (rest.head (.fail _ _ path _ hm))
  rw [← start] at run
  have failed : FailedWith failure final.caller := kept_by_run failedWith_step rest (.inl rfl)
  rw [FailedWith, hd] at failed
  rcases failed with hn | hn
  · cases hn
  · exact ⟨final, run, hd.trans hn⟩

end Pool

end StringsAudit

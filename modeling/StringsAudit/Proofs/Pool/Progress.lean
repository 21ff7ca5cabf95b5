import Mathlib.Tactic.ByContra
import Mathlib.Tactic.Push
import StringsAudit.Proofs.Pool.Invariant

/-!
# How a pool comes to its end

With room for one worker a pool whose caller is not done can go on, and no run goes on forever.
So every run can be completed, and the complete ones are those whose caller is done. At no time do
more tasks run than the bound allows.
-/

set_option autoImplicit false

namespace StringsAudit

variable {scan : Text → TaskResult} {limit : Option Int} {files : List Text}

def Task.weight (scan : Text → TaskResult) (task : Task) : Nat :=
  match task.stage with
  | .queued => (scan task.path).log.length + 3
  | .running _ untold => untold.length + 2
  | .ended _ => 1
  | .taken _ => 0

theorem Task.works_weight {task next : Task} {told : Log} (h : Works scan task told next) :
    next.weight scan < task.weight scan := by
  cases h <;> simp [Task.weight]

namespace Pool

def callerWeight : Caller → Nat
  | .merging _ => 2
  | .failing _ => 1
  | .done _ => 0

def tasksWeight (scan : Text → TaskResult) : List Task → Nat
  | [] => 0
  | task :: tasks => task.weight scan + tasksWeight scan tasks

theorem tasksWeight_set (scan : Text → TaskResult) (before after : List Task) (task : Task) :
    tasksWeight scan (before ++ task :: after) =
      tasksWeight scan before + tasksWeight scan after + task.weight scan := by
  induction before with
  | nil =>
    simp only [List.nil_append, tasksWeight]
    omega
  | cons first before ih =>
    simp only [List.cons_append, tasksWeight, ih]
    omega

def weight (scan : Text → TaskResult) (pool : Pool) : Nat :=
  tasksWeight scan pool.tasks + callerWeight pool.caller

theorem weight_step {pool next : Pool} (step : Step scan limit pool next) :
    weight scan next < weight scan pool := by
  cases step with
  | work log caller works _ =>
    have hw := Task.works_weight works
    simp only [weight, tasksWeight_set]
    omega
  | merge before after path log ok =>
    simp only [weight, tasksWeight_set, Task.weight, callerWeight]
    omega
  | fail before after path log error =>
    simp only [weight, tasksWeight_set, Task.weight, callerWeight]
    omega
  | answer log report taken => simp [weight, callerWeight]
  | raise log failure ended => simp [weight, callerWeight]

/-- No run goes on forever. -/
theorem steps_wellFounded (scan : Text → TaskResult) (limit : Option Int) :
    WellFounded fun next pool => Step scan limit pool next :=
  Subrelation.wf weight_step (measure (weight scan)).wf

theorem countP_running_eq_zero {tasks : List Task} (h : ∀ task ∈ tasks, task.isRunning = false) :
    tasks.countP Task.isRunning = 0 := by
  rw [List.countP_eq_zero]
  intro task ht
  simp [h task ht]

theorem hasRoom_of_idle (hl : ∀ n, limit = some n → 0 < n) {tasks : List Task}
    (h : ∀ task ∈ tasks, task.isRunning = false) : HasRoom limit tasks := by
  intro n hn
  rw [countP_running_eq_zero h]
  exact hl n hn

theorem exists_work {before after : List Task} {task : Task} (log : Log) (caller : Caller)
    (hr : task.isRunning = true) :
    ∃ next, Step scan limit ⟨before ++ task :: after, log, caller⟩ next := by
  cases task with
  | mk path stage =>
    cases stage with
    | running result untold =>
      cases untold with
      | nil => exact ⟨_, .work log caller (.finish path result) (by simp)⟩
      | cons d untold => exact ⟨_, .work log caller (.tell path result d untold) (by simp)⟩
    | queued => simp [Task.isRunning] at hr
    | ended => simp [Task.isRunning] at hr
    | taken => simp [Task.isRunning] at hr

/-- A caller with only ended tasks takes one of them or is done. -/
theorem exists_take {tasks : List Task} (log : Log) {caller : Caller}
    (ended : ∀ task ∈ tasks, task.hasEnded = true) (hc : ∀ outcome, caller ≠ .done outcome) :
    ∃ next, Step scan limit ⟨tasks, log, caller⟩ next := by
  cases caller with
  | done outcome => exact absurd rfl (hc outcome)
  | failing failure => exact ⟨_, .raise log failure ended⟩
  | merging report =>
    by_cases taken : ∀ task ∈ tasks, task.isTaken = true
    · exact ⟨_, .answer log report taken⟩
    · push Not at taken
      obtain ⟨⟨path, stage⟩, ht, hn⟩ := taken
      have he := ended _ ht
      obtain ⟨before, after, rfl⟩ := List.append_of_mem ht
      cases stage with
      | queued => simp [Task.hasEnded] at he
      | running => simp [Task.hasEnded] at he
      | taken => simp [Task.isTaken] at hn
      | ended result =>
        cases hm : result.mergeInto report with
        | error failure => exact ⟨_, .fail before after path log hm⟩
        | ok merged => exact ⟨_, .merge before after path log hm⟩

theorem exists_step (hl : ∀ n, limit = some n → 0 < n) (scan : Text → TaskResult) (pool : Pool)
    (hc : ∀ outcome, pool.caller ≠ .done outcome) : ∃ next, Step scan limit pool next := by
  obtain ⟨tasks, log, caller⟩ := pool
  by_cases hr : ∃ task ∈ tasks, task.isRunning = true
  · obtain ⟨task, ht, hr⟩ := hr
    obtain ⟨before, after, rfl⟩ := List.append_of_mem ht
    exact exists_work log caller hr
  · have idle : ∀ task ∈ tasks, task.isRunning = false := by simpa using hr
    by_cases hq : ∃ path, ⟨path, .queued⟩ ∈ tasks
    · obtain ⟨path, ht⟩ := hq
      obtain ⟨before, after, rfl⟩ := List.append_of_mem ht
      exact ⟨_, .work log caller (.start path) fun _ => hasRoom_of_idle hl idle⟩
    · apply exists_take log _ hc
      intro task ht
      have hi := idle task ht
      obtain ⟨path, stage⟩ := task
      cases stage with
      | queued => exact absurd ⟨path, ht⟩ hq
      | running => simp [Task.isRunning] at hi
      | ended => rfl
      | taken => rfl

theorem isComplete_of_done {pool : Pool} {outcome : Except ReadFailure Report}
    (h : Consistent scan files pool) (hd : pool.caller = .done outcome) :
    IsComplete scan limit pool := by
  intro next step
  have ended := ended_of_done h hd
  cases step with
  | work log caller works _ =>
    have he := ended _ (List.mem_append_right _ List.mem_cons_self)
    simp [(Task.works_open works).1] at he
  | merge => simp at hd
  | fail => simp at hd
  | answer => simp at hd
  | raise => simp at hd

/-- A run that can no longer go on has a caller that is done. -/
theorem done_of_isComplete (hl : ∀ n, limit = some n → 0 < n) {pool : Pool}
    (h : IsComplete scan limit pool) : ∃ outcome, pool.caller = .done outcome := by
  by_contra hn
  push Not at hn
  obtain ⟨next, step⟩ := exists_step hl scan pool hn
  exact h next step

theorem exists_done (hl : ∀ n, limit = some n → 0 < n) (scan : Text → TaskResult) (pool : Pool) :
    ∃ final outcome, Reaches scan limit pool final ∧ final.caller = .done outcome := by
  induction pool using (steps_wellFounded scan limit).induction with
  | _ pool ih =>
    by_cases hc : ∃ outcome, pool.caller = .done outcome
    · obtain ⟨outcome, hd⟩ := hc
      exact ⟨pool, outcome, .refl, hd⟩
    · push Not at hc
      obtain ⟨next, step⟩ := exists_step hl scan pool hc
      obtain ⟨final, outcome, run, hd⟩ := ih next step
      exact ⟨final, outcome, run.head step, hd⟩

theorem countP_running (before after : List Task) (task : Task) :
    (before ++ task :: after).countP Task.isRunning =
      before.countP Task.isRunning + after.countP Task.isRunning + task.isRunning.toNat := by
  rw [List.countP_append, List.countP_cons]
  cases task.isRunning
  · simp
  · simp
    omega

def WithinLimit (limit : Option Int) (tasks : List Task) : Prop :=
  ∀ n, limit = some n → (tasks.countP Task.isRunning : Int) ≤ n

theorem withinLimit_set {before after : List Task} {task next : Task}
    (h : WithinLimit limit (before ++ task :: after))
    (hr : next.isRunning.toNat ≤ task.isRunning.toNat) :
    WithinLimit limit (before ++ next :: after) := by
  intro n hn
  have hw := h n hn
  rw [countP_running] at hw ⊢
  omega

theorem withinLimit_step {pool next : Pool} (step : Step scan limit pool next)
    (h : WithinLimit limit pool.tasks) : WithinLimit limit next.tasks := by
  cases step with
  | work log caller works room =>
    cases works with
    | start path =>
      intro n hn
      have hr := room rfl n hn
      rw [countP_running] at hr ⊢
      simp only [Task.isRunning, Bool.toNat_true, Bool.toNat_false] at hr ⊢
      omega
    | tell => exact withinLimit_set h (Nat.le_refl _)
    | finish => exact withinLimit_set h (Nat.zero_le _)
  | merge => exact withinLimit_set h (Nat.le_refl _)
  | fail => exact withinLimit_set h (Nat.le_refl _)
  | answer => exact h
  | raise => exact h

theorem withinLimit_initial (hl : ∀ n, limit = some n → 0 < n) (files : List Text) :
    WithinLimit limit (initial files).tasks := by
  intro n hn
  have hi : ∀ task ∈ (initial files).tasks, task.isRunning = false := by
    simp [initial, Task.isRunning]
  have hpos := hl n hn
  rw [countP_running_eq_zero hi]
  omega

theorem withinLimit_run (hl : ∀ n, limit = some n → 0 < n) {pool : Pool}
    (run : Reaches scan limit (initial files) pool) : WithinLimit limit pool.tasks :=
  kept_by_run withinLimit_step run (withinLimit_initial hl files)

end Pool

end StringsAudit

import Mathlib.Logic.Relation
import StringsAudit.Scan

/-!
# Worker pools

A scan puts one task for each file into a queue. Workers take up tasks in any order, as many at
once as the bound allows; a task reads its file, tells its diagnostics one by one and ends with
a result. The calling thread takes the results of ended tasks in any order and merges them. A
failed result stops the merging, and the failure is raised when all tasks have ended.
-/

set_option autoImplicit false

namespace StringsAudit

/-- How far a task has come. A running task has read its file and has yet to tell a part of its
diagnostics; the result of an ended task waits for the caller. -/
inductive Stage where
  | queued
  | running (result : TaskResult) (untold : Log)
  | ended (result : TaskResult)
  | taken (result : TaskResult)

structure Task where
  path : Text
  stage : Stage

namespace Task

def isRunning (task : Task) : Bool :=
  match task.stage with
  | .running _ _ => true
  | _ => false

def isTaken (task : Task) : Bool :=
  match task.stage with
  | .taken _ => true
  | _ => false

def hasEnded (task : Task) : Bool :=
  match task.stage with
  | .ended _ | .taken _ => true
  | _ => false

inductive Works (scan : Text → TaskResult) : Task → Log → Task → Prop
  | start (path : Text) :
      Works scan ⟨path, .queued⟩ [] ⟨path, .running (scan path) (scan path).log⟩
  | tell (path : Text) (result : TaskResult) (d : Diagnostic) (untold : Log) :
      Works scan ⟨path, .running result (d :: untold)⟩ [d] ⟨path, .running result untold⟩
  | finish (path : Text) (result : TaskResult) :
      Works scan ⟨path, .running result []⟩ [] ⟨path, .ended result⟩

end Task

inductive Caller where
  | merging (report : Report)
  | failing (failure : ReadFailure)
  | done (outcome : Except ReadFailure Report)

structure Pool where
  tasks : List Task
  log : Log
  caller : Caller

namespace Pool

def initial (files : List Text) : Pool := ⟨files.map (⟨·, .queued⟩), [], .merging .empty⟩

def HasRoom (limit : Option Int) (tasks : List Task) : Prop :=
  ∀ n, limit = some n → (tasks.countP Task.isRunning : Int) < n

inductive Step (scan : Text → TaskResult) (limit : Option Int) : Pool → Pool → Prop
  | work {before after : List Task} {task next : Task} {told : Log} (log : Log) (caller : Caller)
      (works : Task.Works scan task told next)
      (room : task.stage = .queued → HasRoom limit (before ++ task :: after)) :
      Step scan limit ⟨before ++ task :: after, log, caller⟩
        ⟨before ++ next :: after, log ++ told, caller⟩
  | merge (before after : List Task) (path : Text) {result : TaskResult} (log : Log)
      {report merged : Report} (ok : result.mergeInto report = .ok merged) :
      Step scan limit ⟨before ++ ⟨path, .ended result⟩ :: after, log, .merging report⟩
        ⟨before ++ ⟨path, .taken result⟩ :: after, log, .merging merged⟩
  | fail (before after : List Task) (path : Text) {result : TaskResult} (log : Log)
      {report : Report} {failure : ReadFailure} (error : result.mergeInto report = .error failure) :
      Step scan limit ⟨before ++ ⟨path, .ended result⟩ :: after, log, .merging report⟩
        ⟨before ++ ⟨path, .taken result⟩ :: after, log, .failing failure⟩
  | answer {tasks : List Task} (log : Log) (report : Report)
      (taken : ∀ task ∈ tasks, task.isTaken = true) :
      Step scan limit ⟨tasks, log, .merging report⟩ ⟨tasks, log, .done (.ok report)⟩
  | raise {tasks : List Task} (log : Log) (failure : ReadFailure)
      (ended : ∀ task ∈ tasks, task.hasEnded = true) :
      Step scan limit ⟨tasks, log, .failing failure⟩ ⟨tasks, log, .done (.error failure)⟩

abbrev Reaches (scan : Text → TaskResult) (limit : Option Int) : Pool → Pool → Prop :=
  Relation.ReflTransGen (Step scan limit)

def IsComplete (scan : Text → TaskResult) (limit : Option Int) (pool : Pool) : Prop :=
  ∀ next, ¬ Step scan limit pool next

end Pool

end StringsAudit

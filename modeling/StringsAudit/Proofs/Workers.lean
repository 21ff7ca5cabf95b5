import StringsAudit.Proofs.Audits
import StringsAudit.Proofs.Integers

/-!
# The bound on the workers

The bound that an environment sets is a written integer that is positive, or there is none, so no
scan lacks a worker. It has no say in anything that a run gives: workspaces that differ in it alone
are searched to the same report and audited to the same end.
-/

set_option autoImplicit false

namespace StringsAudit

open CommandLine

namespace Environment

open Text

variable {environment environment' : Environment} {name other : Text}

theorem workerLimit?_eq_some_iff {n : Int} : environment.workerLimit? = some n ↔
    1 ≤ n ∧ ∃ core, Padded core (environment.value workersVariable) ∧ Written core n := by
  rw [workerLimit?, Option.filter_eq_some_iff, integer?_eq_some_iff, and_comm,
    decide_eq_true_iff]
  rfl

def SameBut (name : Text) (environment environment' : Environment) : Prop :=
  ∀ other, other ≠ name → environment.get? other = environment'.get? other

theorem SameBut.value_eq (h : SameBut name environment environment') (hn : other ≠ name) :
    environment.value other = environment'.value other := by
  rw [value, value, h other hn]

theorem SameBut.accessorNamespace_eq (h : SameBut workersVariable environment environment') :
    environment.accessorNamespace = environment'.accessorNamespace := by
  rw [accessorNamespace, accessorNamespace, h.value_eq (by decide)]

theorem SameBut.summaryPath?_eq (h : SameBut workersVariable environment environment') :
    environment.summaryPath? = environment'.summaryPath? := by
  rw [summaryPath?, summaryPath?, h.value_eq (by decide)]

theorem SameBut.set (h : SameBut name environment environment') (assigned value : Text) :
    SameBut name (environment.set assigned value) (environment'.set assigned value) := by
  intro other hn
  rw [Table.get?_set, Table.get?_set, h other hn]

end Environment

namespace EnvFile

open Environment

variable {environment environment' : Environment} {name : Text}

def Together {Answer : Type} (name : Text) (result result' : Environment × Answer) : Prop :=
  ∃ later later' answer, result = (later, answer) ∧ result' = (later', answer) ∧
    SameBut name later later'

theorem applyLines_together (h : SameBut name environment environment') (lines : List Text) :
    Together name (applyLines environment lines) (applyLines environment' lines) := by
  induction lines generalizing environment environment' with
  | nil => exact ⟨_, _, _, rfl, rfl, h⟩
  | cons line rest ih =>
    rw [applyLines, applyLines]
    cases assignment? line with
    | none => exact ih h
    | some assigned =>
      -- whether an assignment is refused depends on it alone
      simp only [assign]
      by_cases hz : '\x00' ∈ assigned.1 ∨ '\x00' ∈ assigned.2
      · simp only [if_pos hz]
        exact ⟨_, _, _, rfl, rfl, h⟩
      by_cases he : assigned.1 = []
      · simp only [if_neg hz, if_pos he]
        exact ⟨_, _, _, rfl, rfl, h⟩
      · simp only [if_neg hz, if_neg he]
        exact ih (h.set assigned.1 assigned.2)

theorem apply_together (h : SameBut name environment environment') (bytes : Bytes) :
    Together name (apply environment bytes) (apply environment' bytes) := by
  rw [apply, apply]
  cases Encoding.Utf8.decode bytes with
  | error whole =>
    obtain ⟨later, later', answer, first, second, same⟩ :=
      applyLines_together h (completeLines (readToFault whole [] (pieces bytes)).1)
    simp only [applyUndecodable, first, second]
    cases answer <;> exact ⟨_, _, _, rfl, rfl, same⟩
  | ok text =>
    obtain ⟨later, later', answer, first, second, same⟩ := applyLines_together h (lines text)
    simp only [first, second]
    cases answer <;> exact ⟨_, _, _, rfl, rfl, same⟩

end EnvFile

namespace Workspace

open Environment EnvFile

variable {ws ws' loaded loaded' : Workspace} {args directories : List Text} {storyboard : Bool}
  {invocation : Invocation} {pool pool' : Option Pool} {outcome outcome' : Outcome}
  {answer answer' : Except ScanFailure Report} {log log' : Log}

structure SameButWorkers (ws ws' : Workspace) : Prop where
  tree : ws.tree = ws'.tree
  here : ws.here = ws'.here
  environment : SameBut workersVariable ws.environment ws'.environment

inductive SameAnswer : Except ScanFailure Report → Except ScanFailure Report → Prop
  | found {report report' : Report}
      (same : ∀ path, report.findings.get? path = report'.findings.get? path) :
      SameAnswer (.ok report) (.ok report')
  | failed (failure failure' : ReadFailure) :
      SameAnswer (.error (.unreadable failure)) (.error (.unreadable failure'))

theorem loadEnv_together (h : ws.SameButWorkers ws') (path : Text) :
    (ws.loadEnv path).2 = (ws'.loadEnv path).2 ∧
      (ws.loadEnv path).1.SameButWorkers (ws'.loadEnv path).1 := by
  obtain ⟨tree, here, environment⟩ := ws
  obtain ⟨tree', here', environment'⟩ := ws'
  obtain ⟨rfl, rfl, same⟩ := h
  have found : ∀ named, find? ⟨tree, here, environment⟩ named =
      find? ⟨tree, here, environment'⟩ named := fun _ => rfl
  have named : defaultPath ⟨tree, here, environment⟩ = defaultPath ⟨tree, here, environment'⟩ :=
    rfl
  rw [loadEnv, loadEnv, found, named]
  simp only
  split
  next => exact ⟨rfl, rfl, rfl, same⟩
  next bytes _ =>
    obtain ⟨later, later', answer, first, second, same⟩ := apply_together same bytes
    simp only [first, second]
    cases answer <;> exact ⟨rfl, rfl, rfl, same⟩
  next => exact ⟨rfl, rfl, rfl, same⟩

structure EndTogether (outcome outcome' : Outcome) : Prop where
  ending : outcome.ending = outcome'.ending
  output : outcome.output = outcome'.output
  workspace : outcome.workspace.SameButWorkers outcome'.workspace

theorem prepare_together (h : ws.SameButWorkers ws') (args : List Text) :
    (∃ outcome outcome', ws.prepare args = .error outcome ∧ ws'.prepare args = .error outcome' ∧
      EndTogether outcome outcome') ∨
    ∃ loaded loaded' invocation, ws.prepare args = .ok (loaded, invocation) ∧
      ws'.prepare args = .ok (loaded', invocation) ∧ loaded.SameButWorkers loaded' := by
  obtain ⟨same, later⟩ := loadEnv_together h []
  rw [prepare, prepare]
  generalize ws.loadEnv [] = result at same later ⊢
  generalize ws'.loadEnv [] = result' at same later ⊢
  obtain ⟨loaded, answer⟩ := result
  obtain ⟨loaded', answer'⟩ := result'
  obtain rfl : answer = answer' := same
  have later : loaded.SameButWorkers loaded' := later
  cases answer with
  | error fault => exact .inl ⟨_, _, rfl, rfl, rfl, rfl, later⟩
  | ok found =>
    cases Invocation.parse args with
    | error stop => exact .inl ⟨_, _, rfl, rfl, rfl, rfl, later⟩
    | ok invocation =>
      by_cases hd : invocation.directories = []
      · simp only [if_pos hd]
        exact .inl ⟨_, _, rfl, rfl, rfl, rfl, later⟩
      · simp only [if_neg hd]
        exact .inr ⟨_, _, _, rfl, rfl, later⟩

/-- The bound has no say in what a search comes to. -/
theorem found_together (h : ws.SameButWorkers ws')
    (finds : ws.Finds ws.environment.accessorNamespace directories storyboard
      ws.environment.workerLimit? answer log)
    (finds' : ws'.Finds ws'.environment.accessorNamespace directories storyboard
      ws'.environment.workerLimit? answer' log') : SameAnswer answer answer' := by
  have positive : ∀ n, ws.environment.workerLimit? = some n → 0 < n :=
    fun _ => workerLimit?_pos
  have positive' : ∀ n, ws'.environment.workerLimit? = some n → 0 < n :=
    fun _ => workerLimit?_pos
  rw [← h.environment.accessorNamespace_eq] at finds'
  generalize ws.environment.workerLimit? = limit at finds positive
  generalize ws'.environment.workerLimit? = limit' at finds' positive'
  generalize ws.environment.accessorNamespace = ns at finds finds'
  obtain ⟨tree, here, environment⟩ := ws
  obtain ⟨tree', here', environment'⟩ := ws'
  obtain ⟨rfl, rfl, -⟩ := h
  by_cases readable : ∀ path ∈ selectedFiles ⟨tree, here, environment⟩ directories storyboard,
      Readable ⟨tree, here, environment⟩ path
  · -- files are selected and read from the tree, whatever the environment
    have readable' : ∀ path ∈ selectedFiles ⟨tree, here, environment'⟩ directories storyboard,
        Readable ⟨tree, here, environment'⟩ path := readable
    obtain ⟨report, rfl⟩ := exists_report_of_readable positive readable finds
    obtain ⟨report', rfl⟩ := exists_report_of_readable positive' readable' finds'
    exact .found ((succeeds_of_finds finds).enters.get?_eq (succeeds_of_finds finds').enters
      (fun _ => Iff.rfl) (fun _ _ => rfl))
  · have unreadable' :
        ¬ ∀ path ∈ selectedFiles ⟨tree, here, environment'⟩ directories storyboard,
          Readable ⟨tree, here, environment'⟩ path := readable
    obtain ⟨failure, rfl, -⟩ := exists_failure_of_not_readable positive readable finds
    obtain ⟨failure', rfl, -⟩ := exists_failure_of_not_readable positive' unreadable' finds'
    exact .failed failure failure'

theorem writeSummary_together (h : ws.SameButWorkers ws') (ns : Namespace) (report : Report) :
    (∃ fault, ws.writeSummary ns report = .error fault ∧
      ws'.writeSummary ns report = .error fault) ∨
    ∃ after after' written, ws.writeSummary ns report = .ok (after, written) ∧
      ws'.writeSummary ns report = .ok (after', written) ∧ after.SameButWorkers after' := by
  rw [writeSummary, writeSummary, ← h.environment.summaryPath?_eq, ← h.tree, ← h.here]
  cases ws.environment.summaryPath? with
  | none => exact .inr ⟨_, _, _, rfl, rfl, h⟩
  | some path =>
    simp only
    cases ws.tree.append ws.here path _ with
    | error fault => exact .inl ⟨_, rfl, rfl⟩
    | ok tree => exact .inr ⟨_, _, _, rfl, rfl, rfl, rfl, h.environment⟩

theorem publish_together (h : ws.SameButWorkers ws') (ns : Namespace) (report : Report)
    (write : Bool) (log : Log) :
    EndTogether (ws.publish ns report write log) (ws'.publish ns report write log) := by
  rw [publish, publish]
  obtain ⟨fault, first, second⟩ | ⟨after, after', written, first, second, same⟩ :=
    writeSummary_together h ns report
  · rw [first, second]
    exact ⟨rfl, rfl, h⟩
  · rw [first, second]
    exact ⟨rfl, rfl, same⟩

theorem conclude_together (h : ws.SameButWorkers ws') {report report' : Report}
    (same : ∀ path, report.findings.get? path = report'.findings.get? path) :
    EndTogether (ws.conclude invocation log (.ok report))
      (ws'.conclude invocation log' (.ok report')) := by
  have entries := Table.perm_of_get?_eq report.nodup_paths report'.nodup_paths same
  rw [conclude, conclude, ← h.environment.accessorNamespace_eq]
  generalize ws.environment.accessorNamespace = ns
  obtain ⟨ending, output, workspace⟩ := publish_together h ns report invocation.write log
  obtain ⟨ending', output', workspace'⟩ :=
    publish_congr entries invocation.write log log'
  exact ⟨ending.trans ending', output.trans output', workspace' ▸ workspace⟩

theorem conclude_failed (failure : ReadFailure) :
    (ws.conclude invocation log (.error (.unreadable failure))).output = banner ∧
    (ws.conclude invocation log (.error (.unreadable failure))).workspace = ws := by
  rw [conclude]
  split <;> exact ⟨rfl, rfl⟩

theorem outcome_of_unsearched (ends : ws.prepare args = .error outcome)
    (h : ws.Audits args pool outcome') : outcome' = outcome := by
  cases h with
  | unsearched ends' => exact Except.error.inj (ends'.symm.trans ends)
  | unreadable prepared => cases ends.symm.trans prepared
  | scanned prepared => cases ends.symm.trans prepared

/-- A run that searches does so behind its environment file; no other one asks for workers. -/
theorem prepare_cases (ws : Workspace) (args : List Text) :
    (∃ outcome, ws.prepare args = .error outcome ∧ outcome.ending ≠ .scanFault .noWorkers) ∨
    ∃ invocation, ws.prepare args = .ok ((ws.loadEnv []).1, invocation) := by
  rw [prepare]
  generalize ws.loadEnv [] = result
  obtain ⟨loaded, answer⟩ := result
  cases answer with
  | error fault => exact .inl ⟨_, rfl, by simp⟩
  | ok found =>
    cases Invocation.parse args with
    | error stop => exact .inl ⟨_, rfl, by simp⟩
    | ok invocation =>
      by_cases hd : invocation.directories = []
      · simp only [if_pos hd]
        exact .inl ⟨_, rfl, by simp⟩
      · simp only [if_neg hd]
        exact .inr ⟨_, rfl⟩

theorem tree_of_prepare (prepared : ws.prepare args = .ok (loaded, invocation)) :
    loaded.tree = ws.tree := by
  obtain ⟨_, ends, -⟩ | ⟨_, found⟩ := ws.prepare_cases args
  · cases ends.symm.trans prepared
  · obtain ⟨rfl, -⟩ := Prod.mk.inj (Except.ok.inj (found.symm.trans prepared))
    exact (ws.loadEnv_tree []).1

theorem ending_of_failed (clean : ws.tree.NulFree) {ns : Namespace} {failure : ReadFailure}
    (finds : ws.Finds ns directories storyboard ws.environment.workerLimit?
      (.error (.unreadable failure)) log) (log' : Log) :
    (ws.conclude invocation log' (.error (.unreadable failure))).ending = .finished 1 := by
  obtain ⟨failure, ⟨⟩, fails⟩ := fails_of_finds (fun _ => workerLimit?_pos) finds
  rw [conclude_unreadable (fails.isFatal clean)]

/-- Nor in how an audit ends. -/
theorem audits_together (h : ws.SameButWorkers ws') (first : ws.Audits args pool outcome)
    (second : ws'.Audits args pool' outcome') :
    outcome.output = outcome'.output ∧ outcome.workspace.SameButWorkers outcome'.workspace ∧
      (ws.tree.NulFree → outcome.ending = outcome'.ending) := by
  obtain ⟨ended, ended', ends, ends', same⟩ | ⟨loaded, loaded', invocation, prepared, prepared',
    later⟩ := prepare_together h args
  · obtain rfl := outcome_of_unsearched ends first
    obtain rfl := outcome_of_unsearched ends' second
    exact ⟨same.output, same.workspace, fun _ => same.ending⟩
  · obtain ⟨⟨answer, log, rfl, finds⟩, -⟩ := finds_of_audits prepared first
    obtain ⟨⟨answer', log', rfl, finds'⟩, -⟩ := finds_of_audits prepared' second
    cases found_together later finds finds' with
    | found same =>
      have ended : EndTogether (loaded.conclude invocation log _)
          (loaded'.conclude invocation log' _) := conclude_together later same
      exact ⟨ended.output, ended.workspace, fun _ => ended.ending⟩
    | failed failure failure' =>
      obtain ⟨output, workspace⟩ := conclude_failed failure
      obtain ⟨output', workspace'⟩ := conclude_failed failure'
      rw [output, output', workspace, workspace']
      refine ⟨rfl, later, fun clean => ?_⟩
      have clean : loaded.tree.NulFree := (tree_of_prepare prepared).symm ▸ clean
      rw [ending_of_failed clean finds, ending_of_failed (later.tree ▸ clean) finds']

theorem eq_noWorkers_of_conclude
    (h : (ws.conclude invocation log answer).ending = .scanFault .noWorkers) :
    answer = .error .noWorkers := by
  rw [conclude.eq_def] at h
  split at h
  next =>
    rw [publish] at h
    split at h <;> cases h
  next => split at h <;> cases h
  next => rfl

/-- No audit ends for want of a worker. -/
theorem audit_ne_noWorkers (ws : Workspace) (args : List Text) :
    (ws.audit args).ending ≠ .scanFault .noWorkers := by
  intro lacking
  rw [audit] at lacking
  obtain ⟨outcome, ends, other⟩ | ⟨invocation, prepared⟩ := ws.prepare_cases args
  · rw [ends] at lacking
    exact other lacking
  · rw [prepared] at lacking
    generalize (ws.loadEnv []).1 = loaded at lacking
    have finds := loaded.findAbandoned_finds loaded.environment.accessorNamespace
      invocation.directories invocation.storyboard loaded.environment.workerLimit?
    have answered : (loaded.findAbandoned loaded.environment.accessorNamespace
        invocation.directories invocation.storyboard loaded.environment.workerLimit?).1 =
        .error .noWorkers := eq_noWorkers_of_conclude lacking
    rw [answered] at finds
    obtain ⟨failure, ⟨⟩, -⟩ := fails_of_finds (fun _ => workerLimit?_pos) finds

/-- The bound on the workers is the written integer that the environment gives, if that is
positive. So no audit ends for want of a worker, and what searches and audits come to is the same
under every bound. -/
theorem bound_exact_and_without_effect :
    (∀ (environment : Environment) (n : Int), environment.workerLimit? = some n ↔
      1 ≤ n ∧ ∃ core, Text.Padded core (environment.value workersVariable) ∧
        Text.Written core n) ∧
    (∀ (ws : Workspace) (args : List Text), (ws.audit args).ending ≠ .scanFault .noWorkers) ∧
    ∀ ws ws' : Workspace, ws.SameButWorkers ws' →
      (∀ directories storyboard answer answer' log log',
        ws.Finds ws.environment.accessorNamespace directories storyboard
          ws.environment.workerLimit? answer log →
        ws'.Finds ws'.environment.accessorNamespace directories storyboard
          ws'.environment.workerLimit? answer' log' → SameAnswer answer answer') ∧
      ∀ args pool pool' outcome outcome', ws.Audits args pool outcome →
        ws'.Audits args pool' outcome' →
        outcome.output = outcome'.output ∧
          outcome.workspace.SameButWorkers outcome'.workspace ∧
          (ws.tree.NulFree → outcome.ending = outcome'.ending) := by
  refine ⟨fun _ _ => workerLimit?_eq_some_iff, audit_ne_noWorkers, ?_⟩
  intro ws ws' same
  constructor
  · intro _ _ _ _ _ _ finds finds'
    exact found_together same finds finds'
  · intro _ _ _ _ _ first second
    exact audits_together same first second

def crew (bound : Text) : Workspace := station [(workersVariable, bound)]

theorem crew_sameButWorkers (bound bound' : Text) :
    (crew bound).SameButWorkers (crew bound') := by
  refine ⟨rfl, rfl, fun other hn => ?_⟩
  have absent : ∀ value : Text, Table.get? other [(workersVariable, value)] = none :=
    fun _ => if_neg hn.symm
  exact (absent bound).trans (absent bound').symm

/-- A bound with an underscore and a digit of another script, and a bound that is none. -/
theorem bound_exact_and_without_effect_crew :
    (1 ≤ (10 : Int) ∧ Text.Padded "+1_\u0660".toList " +1_\u0660\n".toList ∧
      Text.Written "+1_\u0660".toList 10) ∧
    (crew " +1_\u0660\n".toList).environment.workerLimit? = some 10 ∧
    (crew " +1_\u0660\n".toList).SameButWorkers (crew ['0']) ∧
    ∃ pool pool' outcome outcome',
      (crew " +1_\u0660\n".toList).Audits [['r'], ['n']] pool outcome ∧
      (crew ['0']).Audits [['r'], ['n']] pool' outcome' ∧
      outcome.ending = outcome'.ending ∧ outcome.output = outcome'.output := by
  obtain ⟨exact_bound, -, effect⟩ := bound_exact_and_without_effect
  have one : Text.IsDigitOf '1' 1 := ⟨by decide, 0x30, by decide, by decide⟩
  have zero : Text.IsDigitOf '\u0660' 0 := ⟨by decide, 0x660, by decide, by decide⟩
  have numeral : Text.Numeral "1_\u0660".toList [1, 0] := .underscore one (.digit zero)
  have written : Text.Written "+1_\u0660".toList 10 := .plus numeral (by decide)
  have padded : Text.Padded "+1_\u0660".toList " +1_\u0660\n".toList :=
    Text.padded_iff.mpr (by decide +kernel)
  have same := crew_sameButWorkers " +1_\u0660\n".toList ['0']
  obtain ⟨pool, audits⟩ := (crew " +1_\u0660\n".toList).audit_audits [['r'], ['n']]
  obtain ⟨pool', audits'⟩ := (crew ['0']).audit_audits [['r'], ['n']]
  obtain ⟨output, -, ending⟩ := (effect _ _ same).2 _ _ _ _ _ audits audits'
  exact ⟨⟨by decide, padded, written⟩,
    (exact_bound _ _).mpr ⟨by decide, _, padded, written⟩, same, pool, pool', _, _, audits,
    audits', ending station_nulFree, output⟩

end Workspace

end StringsAudit

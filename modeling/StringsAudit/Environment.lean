import StringsAudit.Namespace
import StringsAudit.Table
import StringsAudit.Text.Integer

/-!
# Environments

An environment gives values to variables. It can name the accessor namespace, the number of
workers and the file that takes the step summary; a value that cannot be used counts as not given.
-/

set_option autoImplicit false

namespace StringsAudit

abbrev Environment := Table Text

namespace Environment

open Text

def value (environment : Environment) (name : Text) : Text := (environment.get? name).getD []

def namespaceVariable : Text := "ABANDONED_STRINGS_NAMESPACE".toList

def workersVariable : Text := "ABANDONED_STRINGS_WORKERS".toList

def summaryVariable : Text := "GITHUB_STEP_SUMMARY".toList

def accessorNamespace (environment : Environment) : Namespace :=
  .ofText (strip isBlank (environment.value namespaceVariable))

def workerLimit? (environment : Environment) : Option Int :=
  (integer? (environment.value workersVariable)).filter fun n => 0 < n

def summaryPath? (environment : Environment) : Option Text :=
  let path := environment.value summaryVariable
  if path = [] then none else some path

theorem workerLimit?_pos {environment : Environment} {n : Int}
    (h : environment.workerLimit? = some n) : 0 < n := by
  simpa using (Option.filter_eq_some_iff.1 h).2

end Environment

end StringsAudit

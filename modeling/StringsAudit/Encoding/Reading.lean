import StringsAudit.Encoding.Fault

/-!
# Reading a byte sequence

A codec reads one character at the head of a byte sequence, or finds the fault that stands
there. Decoding repeats this to the end, or to the first fault.
-/

set_option autoImplicit false

namespace StringsAudit.Encoding

inductive Reading where
  | char (c : Char) (extra : Nat)
  | fault (reason : Reason) (extra : Nat)
  deriving DecidableEq, Repr

def decodeWith (codec : Codec) (read : UInt8 → Bytes → Reading) (position : Nat) :
    Bytes → Except Fault Text
  | [] => .ok []
  | b :: rest =>
    match read b rest with
    | .char c extra =>
      (decodeWith codec read (position + 1 + extra) (rest.drop extra)).map (c :: ·)
    | .fault reason extra => .error ⟨codec, position, b, rest.take extra, reason⟩
  termination_by bytes => bytes.length
  decreasing_by
    simp only [List.length_drop, List.length_cons]
    omega

variable {codec : Codec} {read : UInt8 → Bytes → Reading} {position : Nat}

theorem decodeWith_nil : decodeWith codec read position [] = .ok [] := by
  rw [decodeWith]

theorem decodeWith_of_char {b : UInt8} {rest : Bytes} {c : Char} {extra : Nat}
    (h : read b rest = .char c extra) :
    decodeWith codec read position (b :: rest) =
      (decodeWith codec read (position + 1 + extra) (rest.drop extra)).map (c :: ·) := by
  rw [decodeWith, h]

theorem decodeWith_of_fault {b : UInt8} {rest : Bytes} {reason : Reason} {extra : Nat}
    (h : read b rest = .fault reason extra) :
    decodeWith codec read position (b :: rest) =
      .error ⟨codec, position, b, rest.take extra, reason⟩ := by
  rw [decodeWith, h]

end StringsAudit.Encoding

import StringsAudit.Encoding.Reading

/-!
# UTF-8

A lead byte says how many bytes follow it and, to keep each character to its one shortest form
and to keep surrogates out, narrows the range of the first of them.
-/

set_option autoImplicit false

namespace StringsAudit.Encoding.Utf8

structure Lead where
  more : Nat
  low : Nat
  high : Nat
  bits : Nat
  deriving DecidableEq, Repr

def leadOf? (b : Nat) : Option Lead :=
  if b < 0x80 then some ⟨0, 0x80, 0xBF, b⟩
  else if b < 0xC2 then none
  else if b < 0xE0 then some ⟨1, 0x80, 0xBF, b - 0xC0⟩
  else if b < 0xF0 then
    some ⟨2, if b = 0xE0 then 0xA0 else 0x80, if b = 0xED then 0x9F else 0xBF, b - 0xE0⟩
  else if b < 0xF5 then
    some ⟨3, if b = 0xF0 then 0x90 else 0x80, if b = 0xF4 then 0x8F else 0xBF, b - 0xF0⟩
  else none

def continuation (low high : Nat) : Nat → Bytes → Bytes
  | 0, _ => []
  | _ + 1, [] => []
  | more + 1, b :: rest =>
    if low ≤ b.toNat ∧ b.toNat ≤ high then b :: continuation 0x80 0xBF more rest else []

def codePoint (bits : Nat) (tail : Bytes) : Nat :=
  tail.foldl (fun n b => n * 64 + (b.toNat - 0x80)) bits

def read (b : UInt8) (rest : Bytes) : Reading :=
  match leadOf? b.toNat with
  | none => .fault .invalidStart 0
  | some lead =>
    let tail := continuation lead.low lead.high lead.more rest
    if tail.length = lead.more then .char (Char.ofNat (codePoint lead.bits tail)) lead.more
    else if tail.length = rest.length then .fault .unexpectedEnd tail.length
    else .fault .invalidContinuation tail.length

def decode (bytes : Bytes) : Except Fault Text := decodeWith .utf8 read 0 bytes

def isCutSurrogate : Bytes → Bool
  | [a, b] => a == 0xED && 0xA0 ≤ b && b ≤ 0xBF
  | _ => false

/-- Reads bytes behind which more may come: the text of the complete characters, and the bytes
left over at the end. A cut character is left over, and so is a cut surrogate, which is refused
only with what follows it. -/
def decodePart (bytes : Bytes) : Except Fault (Text × Bytes) :=
  match decode bytes with
  | .ok text => .ok (text, [])
  | .error fault =>
    let left := bytes.drop fault.position
    if fault.reason = .unexpectedEnd ∨ isCutSurrogate left then
      (decode (bytes.take fault.position)).map (·, left)
    else .error fault

def continuationByte (n : Nat) : UInt8 := UInt8.ofNat (0x80 + n % 64)

def encodeChar (c : Char) : Bytes :=
  let n := c.toNat
  if n < 0x80 then [UInt8.ofNat n]
  else if n < 0x800 then [UInt8.ofNat (0xC0 + n / 64), continuationByte n]
  else if n < 0x10000 then
    [UInt8.ofNat (0xE0 + n / 4096), continuationByte (n / 64), continuationByte n]
  else
    [UInt8.ofNat (0xF0 + n / 262144), continuationByte (n / 4096), continuationByte (n / 64),
      continuationByte n]

def encode (text : Text) : Bytes := text.flatMap encodeChar

def size (text : Text) : Nat := (encode text).length

theorem encode_append (a b : Text) : encode (a ++ b) = encode a ++ encode b :=
  List.flatMap_append

theorem size_append (a b : Text) : size (a ++ b) = size a + size b := by
  rw [size, encode_append, List.length_append]
  rfl

end StringsAudit.Encoding.Utf8

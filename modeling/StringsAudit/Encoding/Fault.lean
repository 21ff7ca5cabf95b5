import StringsAudit.Text.Quoted

/-!
# Decoding faults

A byte sequence that is no text in its encoding is refused with its first fault: where the fault
stands, which bytes are at fault and what is wrong with them.
-/

set_option autoImplicit false

namespace StringsAudit

abbrev Bytes := List UInt8

inductive ByteOrder where
  | little
  | big
  deriving DecidableEq, Repr

namespace Encoding

inductive Codec where
  | utf8
  | utf16 (order : ByteOrder)
  | utf32 (order : ByteOrder)
  deriving DecidableEq, Repr

inductive Reason where
  | invalidStart
  | invalidContinuation
  | unexpectedEnd
  | truncated
  | unpairedHigh
  | unpairedLow
  | surrogate
  | outOfRange
  deriving DecidableEq, Repr

structure Fault where
  codec : Codec
  position : Nat
  first : UInt8
  others : Bytes
  reason : Reason
  deriving DecidableEq, Repr

def Codec.name : Codec → Text
  | .utf8 => "utf-8".toList
  | .utf16 .little => "utf-16-le".toList
  | .utf16 .big => "utf-16-be".toList
  | .utf32 .little => "utf-32-le".toList
  | .utf32 .big => "utf-32-be".toList

def Reason.text : Reason → Text
  | .invalidStart => "invalid start byte".toList
  | .invalidContinuation => "invalid continuation byte".toList
  | .unexpectedEnd => "unexpected end of data".toList
  | .truncated => "truncated data".toList
  | .unpairedHigh => "illegal UTF-16 surrogate".toList
  | .unpairedLow => "illegal encoding".toList
  | .surrogate => "code point in surrogate code point range(0xd800, 0xe000)".toList
  | .outOfRange => "code point not in range(0x110000)".toList

namespace Fault

def last (f : Fault) : Nat := f.position + f.others.length

def place (f : Fault) : Text :=
  if f.others = [] then
    "byte 0x".toList ++ Text.hexDigits 2 f.first.toNat ++ " in position ".toList
      ++ Nat.toDigits 10 f.position
  else
    "bytes in position ".toList ++ Nat.toDigits 10 f.position ++ '-' :: Nat.toDigits 10 f.last

def message (f : Fault) : Text :=
  '\'' :: f.codec.name ++ "' codec can't decode ".toList ++ f.place ++ ": ".toList ++ f.reason.text

end Fault

end Encoding

end StringsAudit

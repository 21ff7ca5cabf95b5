import StringsAudit.Encoding.Reading

/-!
# UTF-16

Units of two bytes in either order. A character above U+FFFF is a pair of surrogates, the high
one first; a surrogate outside a pair is a fault.
-/

set_option autoImplicit false

namespace StringsAudit.Encoding.Utf16

def unit (order : ByteOrder) (a b : UInt8) : Nat :=
  match order with
  | .little => a.toNat + 256 * b.toNat
  | .big => 256 * a.toNat + b.toNat

def isHigh (u : Nat) : Bool := 0xD800 ≤ u && u < 0xDC00

def isLow (u : Nat) : Bool := 0xDC00 ≤ u && u < 0xE000

def joined (high low : Nat) : Nat := 0x10000 + (high - 0xD800) * 0x400 + (low - 0xDC00)

def read (order : ByteOrder) (a : UInt8) : Bytes → Reading
  | [] => .fault .truncated 0
  | b :: rest =>
    let u := unit order a b
    if isLow u then .fault .unpairedLow 1
    else if isHigh u then
      match rest with
      | c :: d :: _ =>
        let v := unit order c d
        if isLow v then .char (Char.ofNat (joined u v)) 3 else .fault .unpairedHigh 1
      | _ => .fault .unexpectedEnd (1 + rest.length)
    else .char (Char.ofNat u) 1

def decode (order : ByteOrder) (position : Nat) (bytes : Bytes) : Except Fault Text :=
  decodeWith (.utf16 order) (read order) position bytes

def unitBytes (order : ByteOrder) (u : Nat) : Bytes :=
  match order with
  | .little => [UInt8.ofNat (u % 256), UInt8.ofNat (u / 256)]
  | .big => [UInt8.ofNat (u / 256), UInt8.ofNat (u % 256)]

def encodeChar (order : ByteOrder) (c : Char) : Bytes :=
  let n := c.toNat
  if n < 0x10000 then unitBytes order n
  else unitBytes order (0xD800 + (n - 0x10000) / 0x400)
    ++ unitBytes order (0xDC00 + (n - 0x10000) % 0x400)

def encode (order : ByteOrder) (text : Text) : Bytes := text.flatMap (encodeChar order)

end StringsAudit.Encoding.Utf16

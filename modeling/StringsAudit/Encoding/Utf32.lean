import StringsAudit.Encoding.Reading

/-!
# UTF-32

Each character is its code point in four bytes, in either order.
-/

set_option autoImplicit false

namespace StringsAudit.Encoding.Utf32

def value (order : ByteOrder) (a b c d : UInt8) : Nat :=
  match order with
  | .little => a.toNat + 0x100 * b.toNat + 0x10000 * c.toNat + 0x1000000 * d.toNat
  | .big => 0x1000000 * a.toNat + 0x10000 * b.toNat + 0x100 * c.toNat + d.toNat

def read (order : ByteOrder) (a : UInt8) : Bytes → Reading
  | b :: c :: d :: _ =>
    let n := value order a b c d
    if 0x110000 ≤ n then .fault .outOfRange 3
    else if 0xD800 ≤ n ∧ n < 0xE000 then .fault .surrogate 3
    else .char (Char.ofNat n) 3
  | rest => .fault .truncated rest.length

def decode (order : ByteOrder) (position : Nat) (bytes : Bytes) : Except Fault Text :=
  decodeWith (.utf32 order) (read order) position bytes

def encodeChar (order : ByteOrder) (c : Char) : Bytes :=
  let n := c.toNat
  let bytes := [UInt8.ofNat (n / 0x1000000), UInt8.ofNat (n / 0x10000 % 256),
    UInt8.ofNat (n / 0x100 % 256), UInt8.ofNat (n % 256)]
  match order with
  | .little => bytes.reverse
  | .big => bytes

def encode (order : ByteOrder) (text : Text) : Bytes := text.flatMap (encodeChar order)

end StringsAudit.Encoding.Utf32

import StringsAudit.Encoding.Utf16
import StringsAudit.Encoding.Utf32
import StringsAudit.Encoding.Utf8

/-!
# Forms of a text file

A text file is plain UTF-8, or begins with a byte order mark that names its encoding. The mark
of little-endian UTF-32 begins with that of little-endian UTF-16, so the longer marks are tried
first. One mark is removed; a second one is a character of the text.
-/

set_option autoImplicit false

namespace StringsAudit.Encoding

inductive Form where
  | plain
  | marked
  | utf16 (order : ByteOrder)
  | utf32 (order : ByteOrder)
  deriving DecidableEq, Repr

namespace Form

def mark : Form → Bytes
  | .plain => []
  | .marked => [0xEF, 0xBB, 0xBF]
  | .utf16 .little => [0xFF, 0xFE]
  | .utf16 .big => [0xFE, 0xFF]
  | .utf32 .little => [0xFF, 0xFE, 0x00, 0x00]
  | .utf32 .big => [0x00, 0x00, 0xFE, 0xFF]

def withMark : List Form :=
  [.utf32 .little, .utf32 .big, .utf16 .little, .utf16 .big, .marked]

def detect (data : Bytes) : Form :=
  (withMark.find? fun form => form.mark.isPrefixOf data).getD .plain

def encode (form : Form) (text : Text) : Bytes :=
  form.mark ++
    match form with
    | .plain | .marked => Utf8.encode text
    | .utf16 order => Utf16.encode order text
    | .utf32 order => Utf32.encode order text

def decode (form : Form) (body : Bytes) : Except Fault Text :=
  match form with
  | .plain | .marked => Utf8.decode body
  | .utf16 order => Utf16.decode order form.mark.length body
  | .utf32 order => Utf32.decode order form.mark.length body

end Form

def decodeText (data : Bytes) : Except Fault Text :=
  let form := Form.detect data
  form.decode (data.drop form.mark.length)

end StringsAudit.Encoding

import StringsAudit.Text.Ranges

/-!
# Blank characters

White space in the wide sense: the separators of Unicode, the line and page controls and the
four information separators. The zero-width space and the byte order mark are not blank.
-/

set_option autoImplicit false

namespace StringsAudit.Text

def blankIntervals : List Interval :=
  [⟨0x9, 0xD⟩, ⟨0x1C, 0x20⟩, ⟨0x85, 0x85⟩, ⟨0xA0, 0xA0⟩, ⟨0x1680, 0x1680⟩, ⟨0x2000, 0x200A⟩,
   ⟨0x2028, 0x2029⟩, ⟨0x202F, 0x202F⟩, ⟨0x205F, 0x205F⟩, ⟨0x3000, 0x3000⟩]

def isBlank (c : Char) : Bool := Interval.covers blankIntervals c.toNat

end StringsAudit.Text

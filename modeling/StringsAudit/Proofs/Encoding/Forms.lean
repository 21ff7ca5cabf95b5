import StringsAudit.Encoding.Form
import StringsAudit.Proofs.Encoding.Units
import StringsAudit.Proofs.Encoding.Utf8

/-!
# Text files are read exactly

The form of a file is told by its mark. Two texts are told wrong: plain text that begins with
U+FEFF shows the mark of UTF-8, and little-endian UTF-16 that begins with NUL shows the mark of
little-endian UTF-32. Apart from these texts reading is the inverse of writing, over all texts
and over all byte sequences.
-/

set_option autoImplicit false

namespace StringsAudit.Encoding

variable {form : Form} {text : Text} {data body : Bytes}

def Form.Admits : Form → Text → Prop
  | .plain, text => text.head? ≠ some '\uFEFF'
  | .utf16 .little, text => text.head? ≠ some '\x00'
  | _, _ => True

instance (form : Form) (text : Text) : Decidable (form.Admits text) :=
  match form with
  | .plain => inferInstanceAs (Decidable (text.head? ≠ some '\uFEFF'))
  | .utf16 .little => inferInstanceAs (Decidable (text.head? ≠ some '\x00'))
  | .marked | .utf16 .big | .utf32 _ => inferInstanceAs (Decidable True)

namespace Form

def codec : Form → Codec
  | .plain | .marked => .utf8
  | .utf16 order => .utf16 order
  | .utf32 order => .utf32 order

def read : Form → UInt8 → Bytes → Reading
  | .plain | .marked => Utf8.read
  | .utf16 order => Utf16.read order
  | .utf32 order => Utf32.read order

def encodeChar : Form → Char → Bytes
  | .plain | .marked => Utf8.encodeChar
  | .utf16 order => Utf16.encodeChar order
  | .utf32 order => Utf32.encodeChar order

theorem exact (form : Form) : Exact form.read form.encodeChar :=
  match form with
  | .plain | .marked => Utf8.exact
  | .utf16 order => Utf16.exact order
  | .utf32 order => Utf32.exact order

def countedMark (form : Form) : Bytes := if form = .marked then [] else form.mark

theorem encode_eq (form : Form) (text : Text) :
    form.encode text = form.mark ++ text.flatMap form.encodeChar := by
  cases form <;> rfl

theorem decode_eq (form : Form) (body : Bytes) :
    form.decode body = decodeWith form.codec form.read form.countedMark.length body := by
  cases form <;> rfl

end Form

theorem Form.decode_eq_ok_iff :
    form.decode body = .ok text ↔ form.mark ++ body = form.encode text := by
  rw [decode_eq, form.exact.decodeWith_eq_ok_iff, encode_eq, List.append_right_inj]

theorem Form.mark_detect_isPrefix (data : Bytes) : (Form.detect data).mark <+: data := by
  unfold Form.detect
  cases h : Form.withMark.find? fun form => form.mark.isPrefixOf data with
  | none => exact List.nil_prefix
  | some form =>
    have hp := List.find?_some h
    exact List.isPrefixOf_iff_prefix.mp hp

/-- A file is read as a text just when it is that text in the form that it shows. -/
theorem decodeText_eq_ok_iff :
    decodeText data = .ok text ↔ data = (Form.detect data).encode text := by
  have hshown := Form.mark_detect_isPrefix data
  unfold decodeText
  generalize Form.detect data = form at hshown ⊢
  obtain ⟨body, rfl⟩ := hshown
  show form.decode ((form.mark ++ body).drop form.mark.length) = _ ↔ _
  rw [List.drop_left]
  exact Form.decode_eq_ok_iff

theorem Form.detect_eq_plain_iff :
    Form.detect data = .plain ↔ ∀ form ∈ Form.withMark, ¬ form.mark <+: data := by
  unfold Form.detect
  cases h : Form.withMark.find? fun form => form.mark.isPrefixOf data with
  | none =>
    have hn := List.find?_eq_none.mp h
    exact iff_of_true rfl fun form hf hp => hn form hf (List.isPrefixOf_iff_prefix.mpr hp)
  | some form =>
    have hf := List.mem_of_find?_eq_some h
    have hp := List.find?_some h
    apply iff_of_false
    · rintro rfl
      exact absurd hf (by decide)
    · intro hn
      exact hn form hf (List.isPrefixOf_iff_prefix.mp hp)

/-- All marks but that of UTF-8 hold a byte that UTF-8 never uses. -/
theorem Form.mem_mark (h : form ∈ Form.withMark) : form = .marked ∨ 0xFE ∈ form.mark := by
  revert form
  decide

theorem Form.detect_plain_encode :
    Form.detect (Form.plain.encode text) = .plain ↔ text.head? ≠ some '\uFEFF' := by
  have hmark : Form.marked.mark <+: Utf8.encode text ↔ text.head? = some '\uFEFF' := by
    rw [← Utf8.exact.encodeChar_prefix_iff]
    rfl
  rw [Form.detect_eq_plain_iff, Ne, ← hmark]
  constructor
  · intro h
    exact h .marked (by decide)
  · intro h form hform hshown
    obtain rfl | hmem := Form.mem_mark hform
    · exact h hshown
    · exact absurd (Utf8.lt_of_mem_encode (hshown.subset hmem)) (by decide)

theorem Form.detect_little (body : Bytes) : Form.detect (0xFF :: 0xFE :: body) =
    if [0x00, 0x00].isPrefixOf body then .utf32 .little else .utf16 .little := by
  have hlong : (Form.utf32 .little).mark.isPrefixOf (0xFF :: 0xFE :: body) =
      [0x00, 0x00].isPrefixOf body := rfl
  unfold Form.detect Form.withMark
  rw [List.find?_cons, hlong]
  split
  next h =>
    rw [if_pos h]
    rfl
  next h =>
    rw [if_neg (Bool.not_eq_true _ ▸ h)]
    rfl

theorem Form.detect_utf16_little_encode :
    Form.detect ((Form.utf16 .little).encode text) = .utf16 .little ↔
      text.head? ≠ some '\x00' := by
  have hnul : [0x00, 0x00] <+: Utf16.encode .little text ↔ text.head? = some '\x00' := by
    rw [← (Utf16.exact .little).encodeChar_prefix_iff]
    rfl
  rw [← List.isPrefixOf_iff_prefix] at hnul
  rw [Ne, ← hnul]
  show Form.detect (0xFF :: 0xFE :: Utf16.encode .little text) = _ ↔ _
  rw [Form.detect_little]
  split
  next h => exact iff_of_false nofun (not_not_intro h)
  next h => exact iff_of_true rfl h

theorem Form.detect_encode_iff : Form.detect (form.encode text) = form ↔ form.Admits text := by
  -- the other marks stand first in the list, or differ within their own length from those before
  match form with
  | .plain => exact Form.detect_plain_encode
  | .utf16 .little => exact Form.detect_utf16_little_encode
  | .marked => exact iff_of_true rfl trivial
  | .utf16 .big => exact iff_of_true rfl trivial
  | .utf32 .little => exact iff_of_true rfl trivial
  | .utf32 .big => exact iff_of_true rfl trivial

theorem decodeText_encode (h : form.Admits text) : decodeText (form.encode text) = .ok text := by
  rw [decodeText_eq_ok_iff, Form.detect_encode_iff.mpr h]

theorem exists_form_of_decodeText (h : decodeText data = .ok text) :
    ∃! form : Form, form.Admits text ∧ data = form.encode text := by
  rw [decodeText_eq_ok_iff] at h
  refine ⟨Form.detect data, ⟨?_, h⟩, ?_⟩
  · rw [← Form.detect_encode_iff, ← h]
  · rintro form ⟨hadmits, rfl⟩
    exact (Form.detect_encode_iff.mpr hadmits).symm

theorem decodeText_error_iff : (∃ fault, decodeText data = .error fault) ↔
    ∀ (form : Form) (text : Text), form.Admits text → data ≠ form.encode text := by
  constructor
  · rintro ⟨fault, hf⟩ form text hadmits rfl
    rw [decodeText_encode hadmits] at hf
    cases hf
  · intro h
    cases hd : decodeText data with
    | error fault => exact ⟨fault, rfl⟩
    | ok text =>
      obtain ⟨form, ⟨hadmits, hdata⟩, -⟩ := exists_form_of_decodeText hd
      exact absurd hdata (h form text hadmits)

/-- A mark is U+FEFF itself, as its form writes it. -/
theorem Form.encode_bom (h : form ≠ .plain) :
    form.encode ('\uFEFF' :: text) = form.mark ++ form.encode text := by
  match form with
  | .marked => rfl
  | .utf16 .little => rfl
  | .utf16 .big => rfl
  | .utf32 .little => rfl
  | .utf32 .big => rfl

/-- Reading inverts the six ways to write a text file, it refuses every other byte sequence, and
it removes one mark only. -/
theorem decodeText_inverts_encode :
    (∀ (form : Form) (text : Text), form.Admits text →
      decodeText (form.encode text) = .ok text) ∧
    (∀ (data : Bytes) (text : Text), decodeText data = .ok text →
      ∃! form : Form, form.Admits text ∧ data = form.encode text) ∧
    (∀ data : Bytes, (∃ fault, decodeText data = .error fault) ↔
      ∀ (form : Form) (text : Text), form.Admits text → data ≠ form.encode text) ∧
    (∀ (form : Form) (text : Text), form ≠ .plain →
      decodeText (form.mark ++ form.encode text) = .ok ('\uFEFF' :: text)) := by
  refine ⟨fun _ _ => decodeText_encode, fun _ _ => exists_form_of_decodeText,
    fun _ => decodeText_error_iff, ?_⟩
  intro form text hmarked
  have hadmits : form.Admits ('\uFEFF' :: text) := by
    match form with
    | .marked | .utf16 .big | .utf32 _ => trivial
    | .utf16 .little => exact fun h => absurd (Option.some.inj h) (by decide)
  rw [← Form.encode_bom hmarked]
  exact decodeText_encode hadmits

theorem decodeText_inverts_encode_samples :
    (Form.Admits (.utf16 .little) ['é'] ∧ decodeText [0xFF, 0xFE, 0xE9, 0x00] = .ok ['é']) ∧
    (∃! form : Form, form.Admits ['é'] ∧ [0xFF, 0xFE, 0xE9, 0x00] = form.encode ['é']) ∧
    (∀ (form : Form) (text : Text), form.Admits text → [0xC0, 0x80] ≠ form.encode text) ∧
    (Form.marked ≠ .plain ∧
      decodeText [0xEF, 0xBB, 0xBF, 0xEF, 0xBB, 0xBF, 0x78] = .ok ['\uFEFF', 'x']) := by
  have hread : decodeText [0xFF, 0xFE, 0xE9, 0x00] = .ok ['é'] :=
    decodeText_inverts_encode.1 (.utf16 .little) ['é'] (by decide)
  have hstart : Utf8.read 0xC0 [0x80] = .fault .invalidStart 0 := by decide
  have hoverlong : decodeText [0xC0, 0x80] = .error ⟨.utf8, 0, 0xC0, [], .invalidStart⟩ :=
    decodeWith_of_fault hstart
  refine ⟨⟨by decide, hread⟩, ?_, ?_, by decide, ?_⟩
  · exact decodeText_inverts_encode.2.1 _ _ hread
  · exact (decodeText_inverts_encode.2.2.1 _).mp ⟨_, hoverlong⟩
  · exact decodeText_inverts_encode.2.2.2 .marked ['x'] (by decide)

end StringsAudit.Encoding

import Mathlib.Data.List.Basic
import StringsAudit.Encoding.Utf8
import StringsAudit.Proofs.Encoding.Exact

/-!
# UTF-8 is exact

The reader of UTF-8 accepts a lead byte with the continuation bytes that it asks for, each within
its bounds. The bounds on the first of them keep every character to the one form that the encoder
gives it, so the reader is exact.
-/

set_option autoImplicit false

namespace StringsAudit.Encoding.Utf8

variable {low high n extra : Nat} {b : UInt8} {rest tail : Bytes} {lead : Lead} {c : Char}

def InBounds (low high : Nat) : Bytes → Prop
  | [] => True
  | b :: rest => (low ≤ b.toNat ∧ b.toNat ≤ high) ∧ InBounds 0x80 0xBF rest

theorem inBounds_continuation (low high more : Nat) (rest : Bytes) :
    InBounds low high (continuation low high more rest) := by
  fun_induction continuation low high more rest with
  | case1 => trivial
  | case2 => trivial
  | case3 low high more b rest hb ih => exact ⟨hb, ih⟩
  | case4 => trivial

theorem InBounds.le (h : InBounds low high tail) (hh : high ≤ 0xBF) :
    ∀ b ∈ tail, b.toNat ≤ 0xBF := by
  induction tail generalizing low high with
  | nil => nofun
  | cons x tail ih =>
    rintro b (_ | ⟨_, hb⟩)
    · exact Nat.le_trans h.1.2 hh
    · exact ih h.2 (Nat.le_refl _) b hb

theorem exists_append_continuation (low high more : Nat) (rest : Bytes) :
    ∃ after, rest = continuation low high more rest ++ after := by
  fun_induction continuation low high more rest with
  | case1 _ _ rest => exact ⟨rest, rfl⟩
  | case2 => exact ⟨[], rfl⟩
  | case3 low high more b rest hb ih =>
    obtain ⟨after, ha⟩ := ih
    exact ⟨after, by rw [List.cons_append, ← ha]⟩
  | case4 _ _ _ b rest => exact ⟨b :: rest, rfl⟩

theorem continuation_append (h : InBounds low high tail) (rest : Bytes) :
    continuation low high tail.length (tail ++ rest) = tail := by
  induction tail generalizing low high with
  | nil => rfl
  | cons b tail ih =>
    rw [List.cons_append, List.length_cons, continuation, if_pos h.1, ih h.2]

/-- A character is read from a lead byte and the continuation bytes that it asks for. -/
theorem read_eq_char_iff :
    read b rest = .char c extra ↔ ∃ lead tail more, leadOf? b.toNat = some lead ∧
      rest = tail ++ more ∧ InBounds lead.low lead.high tail ∧ tail.length = lead.more ∧
      extra = lead.more ∧ c = Char.ofNat (codePoint lead.bits tail) := by
  constructor
  · intro h
    cases hl : leadOf? b.toNat with
    | none => simp [read, hl] at h
    | some lead =>
      simp only [read, hl] at h
      split at h
      next hlen =>
        obtain ⟨rfl, rfl⟩ := Reading.char.inj h
        obtain ⟨more, hm⟩ := exists_append_continuation lead.low lead.high lead.more rest
        exact ⟨lead, _, more, rfl, hm, inBounds_continuation _ _ _ _, hlen, rfl, rfl⟩
      next =>
        split at h
        · cases h
        · cases h
  · rintro ⟨lead, tail, more, hl, rfl, hb, hlen, rfl, rfl⟩
    have hc := continuation_append hb more
    rw [hlen] at hc
    simp only [read, hl, hc, if_pos hlen]

theorem leadOf?_eq_some_iff : leadOf? n = some lead ↔
    (n < 0x80 ∧ lead = ⟨0, 0x80, 0xBF, n⟩) ∨
    (0xC2 ≤ n ∧ n < 0xE0 ∧ lead = ⟨1, 0x80, 0xBF, n - 0xC0⟩) ∨
    (0xE0 ≤ n ∧ n < 0xF0 ∧ lead =
      ⟨2, if n = 0xE0 then 0xA0 else 0x80, if n = 0xED then 0x9F else 0xBF, n - 0xE0⟩) ∨
    (0xF0 ≤ n ∧ n < 0xF5 ∧ lead =
      ⟨3, if n = 0xF0 then 0x90 else 0x80, if n = 0xF4 then 0x8F else 0xBF, n - 0xF0⟩) := by
  constructor
  · intro h
    unfold leadOf? at h
    by_cases h1 : n < 0x80
    · rw [if_pos h1] at h
      exact .inl ⟨h1, (Option.some.inj h).symm⟩
    by_cases h2 : n < 0xC2
    · rw [if_neg h1, if_pos h2] at h
      cases h
    by_cases h3 : n < 0xE0
    · rw [if_neg h1, if_neg h2, if_pos h3] at h
      exact .inr (.inl ⟨Nat.not_lt.mp h2, h3, (Option.some.inj h).symm⟩)
    by_cases h4 : n < 0xF0
    · rw [if_neg h1, if_neg h2, if_neg h3, if_pos h4] at h
      exact .inr (.inr (.inl ⟨Nat.not_lt.mp h3, h4, (Option.some.inj h).symm⟩))
    by_cases h5 : n < 0xF5
    · rw [if_neg h1, if_neg h2, if_neg h3, if_neg h4, if_pos h5] at h
      exact .inr (.inr (.inr ⟨Nat.not_lt.mp h4, h5, (Option.some.inj h).symm⟩))
    · rw [if_neg h1, if_neg h2, if_neg h3, if_neg h4, if_neg h5] at h
      cases h
  · rintro (⟨h, rfl⟩ | ⟨h, hlt, rfl⟩ | ⟨h, hlt, rfl⟩ | ⟨h, hlt, rfl⟩)
    · rw [leadOf?, if_pos h]
    · rw [leadOf?, if_neg (by omega), if_neg (by omega), if_pos hlt]
    · rw [leadOf?, if_neg (by omega), if_neg (by omega), if_neg (by omega), if_pos hlt]
    · rw [leadOf?, if_neg (by omega), if_neg (by omega), if_neg (by omega), if_neg (by omega),
        if_pos hlt]

theorem leadOf?_bounds (h : leadOf? n = some lead) : n < 0xF5 ∧ lead.high ≤ 0xBF := by
  rw [leadOf?_eq_some_iff] at h
  obtain ⟨h, rfl⟩ | ⟨h, hlt, rfl⟩ | ⟨h, hlt, rfl⟩ | ⟨h, hlt, rfl⟩ := h
  · exact ⟨by omega, Nat.le_refl _⟩
  · exact ⟨by omega, Nat.le_refl _⟩
  · refine ⟨by omega, ?_⟩
    dsimp only
    split <;> decide
  · refine ⟨hlt, ?_⟩
    dsimp only
    split <;> decide

theorem ite_le_iff {k low' x : Nat} : (if n = k then low' else low) ≤ x ↔
    (n = k → low' ≤ x) ∧ (n ≠ k → low ≤ x) := by
  split <;> simp [*]

theorem le_ite_iff {k high' x : Nat} : x ≤ (if n = k then high' else high) ↔
    (n = k → x ≤ high') ∧ (n ≠ k → x ≤ high) := by
  split <;> simp [*]

theorem toNat_continuationByte (n : Nat) : (continuationByte n).toNat = 0x80 + n % 64 := by
  rw [continuationByte, UInt8.toNat_ofNat']
  omega

theorem toNat_leadByte (h : n < 256) : (UInt8.ofNat n).toNat = n := by
  rw [UInt8.toNat_ofNat']
  omega

theorem leadByte_eq (h : n = b.toNat) : UInt8.ofNat n = b := by rw [h, UInt8.ofNat_toNat]

theorem continuationByte_eq (h : 0x80 + n % 64 = b.toNat) : continuationByte n = b :=
  leadByte_eq h

/-- Each character is led by a byte that asks for just the bytes behind it. -/
theorem exists_lead (c : Char) : ∃ b tail lead, encodeChar c = b :: tail ∧
    leadOf? b.toNat = some lead ∧ InBounds lead.low lead.high tail ∧
    tail.length = lead.more ∧ codePoint lead.bits tail = c.toNat := by
  have hv := toNat_valid c
  by_cases h1 : c.toNat < 0x80
  · refine ⟨UInt8.ofNat c.toNat, [], ⟨0, 0x80, 0xBF, c.toNat⟩, ?_, ?_, trivial, rfl, rfl⟩
    · rw [encodeChar, if_pos h1]
    · rw [toNat_leadByte (by omega), leadOf?_eq_some_iff]
      exact .inl ⟨h1, rfl⟩
  by_cases h2 : c.toNat < 0x800
  · refine ⟨UInt8.ofNat (0xC0 + c.toNat / 64), [continuationByte c.toNat],
      ⟨1, 0x80, 0xBF, 0xC0 + c.toNat / 64 - 0xC0⟩, ?_, ?_, ?_, rfl, ?_⟩
    · rw [encodeChar, if_neg h1, if_pos h2]
    · rw [toNat_leadByte (by omega), leadOf?_eq_some_iff]
      exact .inr (.inl ⟨by omega, by omega, rfl⟩)
    · simp only [InBounds, toNat_continuationByte, and_true]
      omega
    · simp only [codePoint, List.foldl_cons, List.foldl_nil, toNat_continuationByte]
      omega
  by_cases h3 : c.toNat < 0x10000
  · refine ⟨UInt8.ofNat (0xE0 + c.toNat / 4096),
      [continuationByte (c.toNat / 64), continuationByte c.toNat],
      ⟨2, if 0xE0 + c.toNat / 4096 = 0xE0 then 0xA0 else 0x80,
        if 0xE0 + c.toNat / 4096 = 0xED then 0x9F else 0xBF, 0xE0 + c.toNat / 4096 - 0xE0⟩,
      ?_, ?_, ?_, rfl, ?_⟩
    · rw [encodeChar, if_neg h1, if_neg h2, if_pos h3]
    · rw [toNat_leadByte (by omega), leadOf?_eq_some_iff]
      exact .inr (.inr (.inl ⟨by omega, by omega, rfl⟩))
    · simp only [InBounds, toNat_continuationByte, ite_le_iff, le_ite_iff, and_true]
      omega
    · simp only [codePoint, List.foldl_cons, List.foldl_nil, toNat_continuationByte]
      omega
  · refine ⟨UInt8.ofNat (0xF0 + c.toNat / 262144),
      [continuationByte (c.toNat / 4096), continuationByte (c.toNat / 64),
        continuationByte c.toNat],
      ⟨3, if 0xF0 + c.toNat / 262144 = 0xF0 then 0x90 else 0x80,
        if 0xF0 + c.toNat / 262144 = 0xF4 then 0x8F else 0xBF, 0xF0 + c.toNat / 262144 - 0xF0⟩,
      ?_, ?_, ?_, rfl, ?_⟩
    · rw [encodeChar, if_neg h1, if_neg h2, if_neg h3]
    · rw [toNat_leadByte (by omega), leadOf?_eq_some_iff]
      exact .inr (.inr (.inr ⟨by omega, by omega, rfl⟩))
    · simp only [InBounds, toNat_continuationByte, ite_le_iff, le_ite_iff, and_true]
      omega
    · simp only [codePoint, List.foldl_cons, List.foldl_nil, toNat_continuationByte]
      omega

/-- The bytes from 0xF5 on have no place in UTF-8. -/
theorem lt_of_mem_encode {text : Text} (h : b ∈ encode text) : b.toNat < 0xF5 := by
  obtain ⟨c, -, hb⟩ := List.mem_flatMap.mp h
  obtain ⟨first, tail, lead, hc, hl, htail, -, -⟩ := exists_lead c
  have hlead := leadOf?_bounds hl
  rw [hc] at hb
  obtain rfl | hb := List.mem_cons.mp hb
  · exact hlead.1
  · exact Nat.lt_of_le_of_lt (htail.le hlead.2 b hb) (by decide)

theorem encodeChar_two (h : 0x80 ≤ n) (hlt : n < 0x800) : encodeChar (Char.ofNat n) =
    [UInt8.ofNat (0xC0 + n / 64), continuationByte n] := by
  have hn := toNat_ofNat_of_valid (show n.isValidChar from .inl (by omega))
  rw [encodeChar, hn, if_neg (by omega), if_pos hlt]

theorem encodeChar_three (h : 0x800 ≤ n) (hlt : n < 0x10000) (hv : n.isValidChar) :
    encodeChar (Char.ofNat n) =
      [UInt8.ofNat (0xE0 + n / 4096), continuationByte (n / 64), continuationByte n] := by
  rw [encodeChar, toNat_ofNat_of_valid hv, if_neg (by omega), if_neg (by omega), if_pos hlt]

theorem encodeChar_four (h : 0x10000 ≤ n) (hlt : n < 0x110000) : encodeChar (Char.ofNat n) =
    [UInt8.ofNat (0xF0 + n / 262144), continuationByte (n / 4096), continuationByte (n / 64),
      continuationByte n] := by
  have hn := toNat_ofNat_of_valid (show n.isValidChar from .inr ⟨by omega, hlt⟩)
  rw [encodeChar, hn, if_neg (by omega), if_neg (by omega), if_neg (by omega)]

/-- What a lead byte and the bytes that it asks for stand for is encoded by these bytes. -/
theorem encodeChar_codePoint (hl : leadOf? b.toNat = some lead)
    (hb : InBounds lead.low lead.high tail) (hlen : tail.length = lead.more) :
    encodeChar (Char.ofNat (codePoint lead.bits tail)) = b :: tail := by
  -- the bounds keep the number out of the shorter forms and of the surrogates
  rw [leadOf?_eq_some_iff] at hl
  obtain ⟨h, rfl⟩ | ⟨h, hlt, rfl⟩ | ⟨h, hlt, rfl⟩ | ⟨h, hlt, rfl⟩ := hl
  · obtain rfl := List.eq_nil_of_length_eq_zero hlen
    have hn := toNat_ofNat_of_valid (show b.toNat.isValidChar from .inl (by omega))
    rw [codePoint, List.foldl_nil, encodeChar, hn, if_pos h, UInt8.ofNat_toNat]
  · obtain ⟨x, rfl⟩ := List.length_eq_one_iff.mp hlen
    simp only [InBounds, and_true] at hb
    simp only [codePoint, List.foldl_cons, List.foldl_nil]
    generalize hn : (b.toNat - 0xC0) * 64 + (x.toNat - 0x80) = n
    have hlead : 0xC0 + n / 64 = b.toNat := by omega
    have hx : 0x80 + n % 64 = x.toNat := by omega
    rw [encodeChar_two (by omega) (by omega), leadByte_eq hlead, continuationByte_eq hx]
  · obtain ⟨x, y, rfl⟩ := List.length_eq_two.mp hlen
    simp only [InBounds, ite_le_iff, le_ite_iff, and_true] at hb
    simp only [codePoint, List.foldl_cons, List.foldl_nil]
    generalize hn : ((b.toNat - 0xE0) * 64 + (x.toNat - 0x80)) * 64 + (y.toNat - 0x80) = n
    have hlead : 0xE0 + n / 4096 = b.toNat := by omega
    have hx : 0x80 + n / 64 % 64 = x.toNat := by omega
    have hy : 0x80 + n % 64 = y.toNat := by omega
    have hv : n.isValidChar := by
      unfold Nat.isValidChar
      omega
    rw [encodeChar_three (by omega) (by omega) hv, leadByte_eq hlead, continuationByte_eq hx,
      continuationByte_eq hy]
  · obtain ⟨x, y, z, rfl⟩ := List.length_eq_three.mp hlen
    simp only [InBounds, ite_le_iff, le_ite_iff, and_true] at hb
    simp only [codePoint, List.foldl_cons, List.foldl_nil]
    generalize hn : (((b.toNat - 0xF0) * 64 + (x.toNat - 0x80)) * 64 + (y.toNat - 0x80)) * 64 +
      (z.toNat - 0x80) = n
    have hlead : 0xF0 + n / 262144 = b.toNat := by omega
    have hx : 0x80 + n / 4096 % 64 = x.toNat := by omega
    have hy : 0x80 + n / 64 % 64 = y.toNat := by omega
    have hz : 0x80 + n % 64 = z.toNat := by omega
    rw [encodeChar_four (by omega) (by omega), leadByte_eq hlead, continuationByte_eq hx,
      continuationByte_eq hy, continuationByte_eq hz]

theorem exact : Exact read encodeChar where
  found c := by
    obtain ⟨b, tail, lead, he, hl, hb, hlen, hc⟩ := exists_lead c
    refine ⟨b, tail, he, fun rest => read_eq_char_iff.mpr ?_⟩
    exact ⟨lead, tail, rest, hl, rfl, hb, hlen, hlen, by rw [hc, Char.ofNat_toNat]⟩
  sound := by
    intro b rest c extra h
    obtain ⟨lead, tail, more, hl, hrest, hb, hlen, rfl, rfl⟩ := read_eq_char_iff.mp h
    exact ⟨tail, more, hrest, hlen, encodeChar_codePoint hl hb hlen⟩

end StringsAudit.Encoding.Utf8

import StringsAudit.Encoding.Utf16
import StringsAudit.Encoding.Utf32
import StringsAudit.Proofs.Encoding.Exact

/-!
# Encodings in units

The readers of UTF-16 and UTF-32 are exact. A unit and its two bytes determine each other in
either order; a pair of surrogates and the character above U+FFFF that it stands for do so, too.
-/

set_option autoImplicit false

namespace StringsAudit.Encoding

namespace Utf16

variable {order : ByteOrder} {a b : UInt8} {u v : Nat}

theorem unit_lt (order : ByteOrder) (a b : UInt8) : unit order a b < 0x10000 := by
  have ha := a.toNat_lt
  have hb := b.toNat_lt
  cases order <;> simp only [unit] <;> omega

theorem unitBytes_unit (order : ByteOrder) (a b : UInt8) :
    unitBytes order (unit order a b) = [a, b] := by
  have ha := a.toNat_lt
  have hb := b.toNat_lt
  cases order with
  | little =>
    have hlow : (a.toNat + 256 * b.toNat) % 256 = a.toNat := by omega
    have hhigh : (a.toNat + 256 * b.toNat) / 256 = b.toNat := by omega
    simp only [unitBytes, unit, hlow, hhigh, UInt8.ofNat_toNat]
  | big =>
    have hlow : (256 * a.toNat + b.toNat) % 256 = b.toNat := by omega
    have hhigh : (256 * a.toNat + b.toNat) / 256 = a.toNat := by omega
    simp only [unitBytes, unit, hlow, hhigh, UInt8.ofNat_toNat]

theorem exists_unitBytes (order : ByteOrder) (h : u < 0x10000) :
    ∃ a b, unitBytes order u = [a, b] ∧ unit order a b = u := by
  have hlow : (UInt8.ofNat (u % 256)).toNat = u % 256 := by
    rw [UInt8.toNat_ofNat']
    omega
  have hhigh : (UInt8.ofNat (u / 256)).toNat = u / 256 := by
    rw [UInt8.toNat_ofNat']
    omega
  cases order with
  | little =>
    refine ⟨_, _, rfl, ?_⟩
    rw [unit, hlow, hhigh]
    omega
  | big =>
    refine ⟨_, _, rfl, ?_⟩
    rw [unit, hlow, hhigh]
    omega

theorem isLow_iff (u : Nat) : isLow u = true ↔ 0xDC00 ≤ u ∧ u < 0xE000 := by simp [isLow]

theorem isHigh_iff (u : Nat) : isHigh u = true ↔ 0xD800 ≤ u ∧ u < 0xDC00 := by simp [isHigh]

theorem read_unit (rest : Bytes) (hu : unit order a b < 0xD800 ∨ 0xE000 ≤ unit order a b) :
    read order a (b :: rest) = .char (Char.ofNat (unit order a b)) 1 := by
  have hl : ¬ isLow (unit order a b) = true := by
    rw [isLow_iff]
    omega
  have hh : ¬ isHigh (unit order a b) = true := by
    rw [isHigh_iff]
    omega
  simp only [read, if_neg hl, if_neg hh]

theorem read_pair {c d : UInt8} (rest : Bytes) (hh : isHigh (unit order a b) = true)
    (hl : isLow (unit order c d) = true) :
    read order a (b :: c :: d :: rest) =
      .char (Char.ofNat (joined (unit order a b) (unit order c d))) 3 := by
  have hn : ¬ isLow (unit order a b) = true := by
    rw [isHigh_iff] at hh
    rw [isLow_iff]
    omega
  simp only [read, if_neg hn, if_pos hh, if_pos hl]

/-- A character is read from a unit that is no surrogate, or from a pair of surrogates. -/
theorem cases_of_read {bytes : Bytes} {found : Char} {extra : Nat}
    (h : read order a bytes = .char found extra) : ∃ b rest, bytes = b :: rest ∧
      (((unit order a b < 0xD800 ∨ 0xE000 ≤ unit order a b) ∧
        Char.ofNat (unit order a b) = found ∧ extra = 1) ∨
      ∃ c d more, rest = c :: d :: more ∧ isHigh (unit order a b) = true ∧
        isLow (unit order c d) = true ∧
        Char.ofNat (joined (unit order a b) (unit order c d)) = found ∧ extra = 3) := by
  rcases bytes with - | ⟨b, rest⟩
  · cases h
  refine ⟨b, rest, rfl, ?_⟩
  by_cases hl : isLow (unit order a b) = true
  · simp only [read, if_pos hl] at h
    cases h
  by_cases hh : isHigh (unit order a b) = true
  · rcases rest with - | ⟨c, - | ⟨d, rest⟩⟩
    · simp only [read, if_neg hl, if_pos hh] at h
      cases h
    · simp only [read, if_neg hl, if_pos hh] at h
      cases h
    by_cases hv : isLow (unit order c d) = true
    · rw [read_pair rest hh hv] at h
      obtain ⟨rfl, rfl⟩ := Reading.char.inj h
      exact .inr ⟨c, d, rest, rfl, hh, hv, rfl, rfl⟩
    · simp only [read, if_neg hl, if_pos hh, if_neg hv] at h
      cases h
  · have hu : unit order a b < 0xD800 ∨ 0xE000 ≤ unit order a b := by
      rw [isLow_iff] at hl
      rw [isHigh_iff] at hh
      omega
    rw [read_unit rest hu] at h
    obtain ⟨rfl, rfl⟩ := Reading.char.inj h
    exact .inl ⟨hu, rfl, rfl⟩

theorem encodeChar_of_lt {c : Char} (h : c.toNat < 0x10000) :
    encodeChar order c = unitBytes order c.toNat := by
  rw [encodeChar, if_pos h]

theorem joined_eq (u v : Nat) : joined u v = 0x10000 + (u - 0xD800) * 0x400 + (v - 0xDC00) := rfl

/-- A pair of surrogates can be read off the number that it stands for. -/
theorem joined_bounds (hu : isHigh u = true) (hv : isLow v = true) :
    0x10000 ≤ joined u v ∧ joined u v < 0x110000 ∧
      0xD800 + (joined u v - 0x10000) / 0x400 = u ∧
      0xDC00 + (joined u v - 0x10000) % 0x400 = v := by
  rw [isHigh_iff] at hu
  rw [isLow_iff] at hv
  rw [joined_eq]
  omega

theorem encodeChar_of_ge {n : Nat} (hbig : 0x10000 ≤ n) (hlt : n < 0x110000) :
    encodeChar order (Char.ofNat n) = unitBytes order (0xD800 + (n - 0x10000) / 0x400) ++
      unitBytes order (0xDC00 + (n - 0x10000) % 0x400) := by
  have hvalid : n.isValidChar := .inr ⟨Nat.lt_of_lt_of_le (by decide) hbig, hlt⟩
  simp only [encodeChar, toNat_ofNat_of_valid hvalid, if_neg (Nat.not_lt.mpr hbig)]

theorem encodeChar_joined (order : ByteOrder) (hu : isHigh u = true) (hv : isLow v = true) :
    encodeChar order (Char.ofNat (joined u v)) = unitBytes order u ++ unitBytes order v := by
  obtain ⟨hbig, hlt, hhigh, hlow⟩ := joined_bounds hu hv
  rw [encodeChar_of_ge hbig hlt, hhigh, hlow]

theorem exists_pair {n : Nat} (hbig : 0x10000 ≤ n) (hlt : n < 0x110000) :
    ∃ u v, isHigh u = true ∧ isLow v = true ∧ joined u v = n := by
  refine ⟨0xD800 + (n - 0x10000) / 0x400, 0xDC00 + (n - 0x10000) % 0x400, ?_, ?_, ?_⟩
  · rw [isHigh_iff]
    omega
  · rw [isLow_iff]
    omega
  · rw [joined_eq]
    omega

theorem exact (order : ByteOrder) : Exact (read order) (encodeChar order) where
  found c := by
    by_cases hc : c.toNat < 0x10000
    · obtain ⟨a, b, hbytes, hu⟩ := exists_unitBytes order hc
      refine ⟨a, [b], (encodeChar_of_lt hc).trans hbytes, fun rest => ?_⟩
      have hv := toNat_valid c
      have hr := read_unit rest (show unit order a b < 0xD800 ∨ _ by omega)
      rwa [hu, Char.ofNat_toNat] at hr
    · have hlt : c.toNat < 0x110000 := by
        have hv := toNat_valid c
        omega
      obtain ⟨u, v, hu, hv, hn⟩ := exists_pair (Nat.not_lt.mp hc) hlt
      obtain ⟨a, b, hhigh, rfl⟩ := exists_unitBytes order (show u < 0x10000 by
        rw [isHigh_iff] at hu
        omega)
      obtain ⟨a', b', hlow, rfl⟩ := exists_unitBytes order (show v < 0x10000 by
        rw [isLow_iff] at hv
        omega)
      have he := encodeChar_joined order hu hv
      rw [hn, Char.ofNat_toNat, hhigh, hlow] at he
      refine ⟨a, [b, a', b'], he, fun rest => ?_⟩
      have hr := read_pair rest hu hv
      rwa [hn, Char.ofNat_toNat] at hr
  sound := by
    intro a bytes found extra h
    obtain ⟨b, rest, rfl, ⟨hu, rfl, rfl⟩ | ⟨c, d, more, rfl, hh, hl, rfl, rfl⟩⟩ := cases_of_read h
    · have hlt := unit_lt order a b
      have hvalid : (unit order a b).isValidChar := by
        unfold Nat.isValidChar
        omega
      have hn := toNat_ofNat_of_valid hvalid
      refine ⟨[b], rest, rfl, rfl, ?_⟩
      rw [encodeChar_of_lt (hn.symm ▸ hlt), hn, unitBytes_unit]
    · refine ⟨[b, c, d], more, rfl, rfl, ?_⟩
      rw [encodeChar_joined order hh hl, unitBytes_unit, unitBytes_unit]
      rfl

end Utf16

namespace Utf32

variable {order : ByteOrder} {a b c d : UInt8} {n : Nat}

def bytesOf (order : ByteOrder) (n : Nat) : Bytes :=
  let bytes := [UInt8.ofNat (n / 0x1000000), UInt8.ofNat (n / 0x10000 % 256),
    UInt8.ofNat (n / 0x100 % 256), UInt8.ofNat (n % 256)]
  match order with
  | .little => bytes.reverse
  | .big => bytes

theorem encodeChar_eq (order : ByteOrder) (c : Char) :
    encodeChar order c = bytesOf order c.toNat := by
  cases order <;> rfl

theorem value_big (a b c d : UInt8) : value .big a b c d =
    0x1000000 * a.toNat + 0x10000 * b.toNat + 0x100 * c.toNat + d.toNat := rfl

theorem value_little (a b c d : UInt8) : value .little a b c d = value .big d c b a := by
  have hl : value .little a b c d =
    a.toNat + 0x100 * b.toNat + 0x10000 * c.toNat + 0x1000000 * d.toNat := rfl
  rw [hl, value_big]
  omega

theorem bytesOf_value (order : ByteOrder) (a b c d : UInt8) :
    bytesOf order (value order a b c d) = [a, b, c, d] := by
  have big : ∀ a b c d, bytesOf .big (value .big a b c d) = [a, b, c, d] := by
    intro a b c d
    have ha := a.toNat_lt
    have hb := b.toNat_lt
    have hc := c.toNat_lt
    have hd := d.toNat_lt
    have hv := value_big a b c d
    have h1 : value .big a b c d / 0x1000000 = a.toNat := by omega
    have h2 : value .big a b c d / 0x10000 % 256 = b.toNat := by omega
    have h3 : value .big a b c d / 0x100 % 256 = c.toNat := by omega
    have h4 : value .big a b c d % 256 = d.toNat := by omega
    simp only [bytesOf, h1, h2, h3, h4, UInt8.ofNat_toNat]
  cases order with
  | big => exact big a b c d
  | little =>
    rw [value_little]
    exact congrArg List.reverse (big d c b a)

theorem exists_bytesOf (order : ByteOrder) (h : n < 0x100000000) :
    ∃ a b c d, bytesOf order n = [a, b, c, d] ∧ value order a b c d = n := by
  have h1 : (UInt8.ofNat (n / 0x1000000)).toNat = n / 0x1000000 := by
    rw [UInt8.toNat_ofNat']
    omega
  have h2 : (UInt8.ofNat (n / 0x10000 % 256)).toNat = n / 0x10000 % 256 := by
    rw [UInt8.toNat_ofNat']
    omega
  have h3 : (UInt8.ofNat (n / 0x100 % 256)).toNat = n / 0x100 % 256 := by
    rw [UInt8.toNat_ofNat']
    omega
  have h4 : (UInt8.ofNat (n % 256)).toNat = n % 256 := by
    rw [UInt8.toNat_ofNat']
    omega
  cases order with
  | little =>
    refine ⟨_, _, _, _, rfl, ?_⟩
    rw [value_little, value_big, h1, h2, h3, h4]
    omega
  | big =>
    refine ⟨_, _, _, _, rfl, ?_⟩
    rw [value_big, h1, h2, h3, h4]
    omega

theorem read_value (rest : Bytes) (h : (value order a b c d).isValidChar) :
    read order a (b :: c :: d :: rest) = .char (Char.ofNat (value order a b c d)) 3 := by
  have hr : ¬ 0x110000 ≤ value order a b c d := by
    unfold Nat.isValidChar at h
    omega
  have hs : ¬ (0xD800 ≤ value order a b c d ∧ value order a b c d < 0xE000) := by
    unfold Nat.isValidChar at h
    omega
  simp only [read, if_neg hr, if_neg hs]

theorem exact (order : ByteOrder) : Exact (read order) (encodeChar order) where
  found c := by
    have hlt : c.toNat < 0x100000000 := by
      have hv := toNat_valid c
      omega
    obtain ⟨x, y, z, w, hbytes, hn⟩ := exists_bytesOf order hlt
    refine ⟨x, [y, z, w], (encodeChar_eq order c).trans hbytes, fun rest => ?_⟩
    have hvalid : (value order x y z w).isValidChar := by
      rw [hn]
      exact c.valid
    have hr := read_value rest hvalid
    rwa [hn, Char.ofNat_toNat] at hr
  sound := by
    intro a bytes found extra h
    rcases bytes with - | ⟨b, - | ⟨c, - | ⟨d, rest⟩⟩⟩
    · cases h
    · cases h
    · cases h
    by_cases hr : 0x110000 ≤ value order a b c d
    · simp only [read, if_pos hr] at h
      cases h
    by_cases hs : 0xD800 ≤ value order a b c d ∧ value order a b c d < 0xE000
    · simp only [read, if_neg hr, if_pos hs] at h
      cases h
    have hvalid : (value order a b c d).isValidChar := by
      unfold Nat.isValidChar
      omega
    rw [read_value rest hvalid] at h
    obtain ⟨rfl, rfl⟩ := Reading.char.inj h
    refine ⟨[b, c, d], rest, rfl, rfl, ?_⟩
    rw [encodeChar_eq, toNat_ofNat_of_valid hvalid, bytesOf_value]

end Utf32

end StringsAudit.Encoding

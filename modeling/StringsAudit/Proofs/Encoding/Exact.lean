import StringsAudit.Encoding.Reading

/-!
# Exact readers

A reader is exact for an encoding of characters when it finds a character just where that
character's bytes stand. Decoding with an exact reader is the inverse of encoding: it gives a text
just for the bytes of that text. No character's bytes then begin those of another one.
-/

set_option autoImplicit false

namespace StringsAudit.Encoding

theorem toNat_ofNat_of_valid {n : Nat} (h : n.isValidChar) : (Char.ofNat n).toNat = n := by
  rw [Char.ofNat, dif_pos h]
  rfl

/-- A character is no surrogate, and it is not above U+10FFFF. -/
theorem toNat_valid (c : Char) :
    c.toNat < 0xD800 ∨ 0xDFFF < c.toNat ∧ c.toNat < 0x110000 := c.valid

structure Exact (read : UInt8 → Bytes → Reading) (encodeChar : Char → Bytes) : Prop where
  found : ∀ c, ∃ b tail, encodeChar c = b :: tail ∧
    ∀ rest, read b (tail ++ rest) = .char c tail.length
  sound : ∀ {b rest c extra}, read b rest = .char c extra →
    ∃ tail more, rest = tail ++ more ∧ tail.length = extra ∧ encodeChar c = b :: tail

variable {codec : Codec} {read : UInt8 → Bytes → Reading} {encodeChar : Char → Bytes}
  {position : Nat} {bytes rest more : Bytes} {text : Text} {c d : Char}

/-- Behind a text decoding goes on as from the start, but for the positions. -/
theorem Exact.decodeWith_append (h : Exact read encodeChar) (text : Text) (rest : Bytes) :
    decodeWith codec read position (text.flatMap encodeChar ++ rest) =
      (decodeWith codec read (position + (text.flatMap encodeChar).length) rest).map
        (text ++ ·) := by
  induction text generalizing position with
  | nil =>
    rw [List.flatMap_nil, List.nil_append, List.length_nil, Nat.add_zero]
    cases decodeWith codec read position rest <;> rfl
  | cons c text ih =>
    obtain ⟨b, tail, hc, hr⟩ := h.found c
    have moved : position + (List.flatMap encodeChar (c :: text)).length =
        position + 1 + tail.length + (List.flatMap encodeChar text).length := by
      rw [List.flatMap_cons, hc, List.length_append, List.length_cons]
      omega
    rw [moved, List.flatMap_cons, hc, List.cons_append, List.cons_append, List.append_assoc,
      decodeWith_of_char (hr _), List.drop_left, ih]
    cases decodeWith codec read _ rest <;> rfl

theorem Exact.decodeWith_encode (h : Exact read encodeChar) (text : Text) :
    decodeWith codec read position (text.flatMap encodeChar) = .ok text := by
  have whole : decodeWith codec read position (text.flatMap encodeChar ++ []) = _ :=
    h.decodeWith_append text []
  rw [List.append_nil, decodeWith_nil] at whole
  simpa [Except.map] using whole

theorem Exact.eq_encode_of_decodeWith (h : Exact read encodeChar)
    (hd : decodeWith codec read position bytes = .ok text) : bytes = text.flatMap encodeChar := by
  induction hn : bytes.length using Nat.strongRecOn generalizing bytes text position with
  | ind n ih =>
    cases bytes with
    | nil =>
      rw [decodeWith_nil] at hd
      obtain rfl := Except.ok.inj hd
      rfl
    | cons b rest =>
      cases hr : read b rest with
      | fault reason extra =>
        rw [decodeWith_of_fault hr] at hd
        cases hd
      | char c extra =>
        obtain ⟨tail, more, rfl, rfl, hc⟩ := h.sound hr
        rw [decodeWith_of_char hr, List.drop_left] at hd
        cases hm : decodeWith codec read (position + 1 + tail.length) more with
        | error fault =>
          rw [hm] at hd
          cases hd
        | ok found =>
          rw [hm] at hd
          obtain rfl := Except.ok.inj hd
          have hlt : more.length < n := by
            rw [← hn, List.length_cons, List.length_append]
            omega
          rw [List.flatMap_cons, hc, ← ih more.length hlt hm rfl]
          rfl

/-- Decoding with an exact reader gives a text just for the bytes of that text. -/
theorem Exact.decodeWith_eq_ok_iff (h : Exact read encodeChar) :
    decodeWith codec read position bytes = .ok text ↔ bytes = text.flatMap encodeChar := by
  constructor
  · exact h.eq_encode_of_decodeWith
  · rintro rfl
    exact h.decodeWith_encode text

theorem Exact.encodeChar_ne_nil (h : Exact read encodeChar) (c : Char) : encodeChar c ≠ [] := by
  obtain ⟨b, tail, hc, -⟩ := h.found c
  simp [hc]

/-- The bytes at hand tell which character they begin with. -/
theorem Exact.char_unique (h : Exact read encodeChar)
    (he : encodeChar c ++ rest = encodeChar d ++ more) : c = d := by
  obtain ⟨b, tail, hc, hr⟩ := h.found c
  obtain ⟨b', tail', hd, hr'⟩ := h.found d
  rw [hc, hd, List.cons_append, List.cons_append, List.cons.injEq] at he
  obtain ⟨rfl, ht⟩ := he
  have hread := hr rest
  rw [ht, hr'] at hread
  exact (Reading.char.inj hread).1.symm

theorem Exact.encodeChar_prefix_iff (h : Exact read encodeChar) :
    encodeChar d <+: text.flatMap encodeChar ↔ text.head? = some d := by
  constructor
  · rintro ⟨more, he⟩
    cases text with
    | nil =>
      have hn := List.append_eq_nil_iff.mp he
      exact absurd hn.1 (h.encodeChar_ne_nil d)
    | cons c text =>
      rw [List.flatMap_cons] at he
      rw [List.head?_cons, h.char_unique he]
  · intro hd
    obtain ⟨rest, rfl⟩ := List.head?_eq_some_iff.mp hd
    exact ⟨rest.flatMap encodeChar, List.flatMap_cons.symm⟩

end StringsAudit.Encoding

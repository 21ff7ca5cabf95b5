import Mathlib
import StringsAudit.Token

/-!
# Lowered texts

The lower-case table gives no code point that it moves itself, so lowering leaves alone what it has
put into a text, whatever stands around it. Usages and keys are lowered texts: lowering some of
them once more neither joins two of them nor tells two of them apart.
-/

set_option autoImplicit false

namespace StringsAudit

namespace Stride

variable {r s : Stride} {strides : List Stride} {n : Nat}

def send (r : Stride) (n : Nat) : Nat := r.image + (n - r.first)

def lastImage (r : Stride) : Nat := r.send r.last

def apart (r s : Stride) : Bool :=
  s.last.blt r.image || r.lastImage.blt s.first ||
    (r.first == r.last || r.step % s.step == 0) && r.image % s.step != s.first % s.step

theorem holds_iff : r.holds n = true ↔ r.first ≤ n ∧ n ≤ r.last ∧ r.step ∣ n - r.first := by
  simp [holds, Nat.dvd_iff_mod_eq_zero, and_assoc]

theorem send_le_lastImage (h : r.holds n = true) : r.send n ≤ r.lastImage := by
  obtain ⟨-, upper, -⟩ := holds_iff.mp h
  exact Nat.add_le_add_left (Nat.sub_le_sub_right upper _) _

theorem not_holds_of_apart (h : r.apart s = true) (held : r.holds n = true) :
    ¬s.holds (r.send n) = true := by
  intro found
  obtain ⟨lower, upper, steps⟩ := holds_iff.mp held
  obtain ⟨first, last, members⟩ := holds_iff.mp found
  have within := send_le_lastImage held
  rw [send] at first last members within
  simp only [apart, Bool.or_eq_true, Bool.and_eq_true, Nat.blt_eq, beq_iff_eq, bne_iff_ne] at h
  rcases h with (behind | before) | ⟨same, between⟩
  · omega
  · omega
  · have moved : s.step ∣ n - r.first := by
      rcases same with single | divides
      · have still : n - r.first = 0 := by omega
        exact still ▸ Nat.dvd_zero _
      · exact (Nat.dvd_of_mod_eq_zero divides).trans steps
    obtain ⟨j, hj⟩ := moved
    obtain ⟨k, hk⟩ := members
    have meet : r.image + s.step * j = s.first + s.step * k := by omega
    apply between
    calc r.image % s.step = (r.image + s.step * j) % s.step :=
          (Nat.add_mul_mod_self_left ..).symm
      _ = (s.first + s.step * k) % s.step := by rw [meet]
      _ = s.first % s.step := Nat.add_mul_mod_self_left ..

theorem imageOf?_send_of_apart (h : ∀ s ∈ strides, r.apart s = true) (held : r.holds n = true) :
    imageOf? strides (r.send n) = none := by
  rw [Option.eq_none_iff_forall_ne_some]
  intro m hm
  obtain ⟨s, hs, found, -⟩ := exists_of_imageOf? hm
  exact not_holds_of_apart (h s hs) held found

end Stride

namespace Text

variable {c d : Char} {n m : Nat} {afterCased : Bool} {text rest : Text}

structure IsLowered (c : Char) : Prop where
  not_sigma : c ≠ 'Σ'
  not_dotted : c ≠ 'İ'
  absent : Stride.imageOf? lowerStrides c.toNat = none

instance (c : Char) : Decidable (IsLowered c) :=
  decidable_of_iff (c ≠ 'Σ' ∧ c ≠ 'İ' ∧ Stride.imageOf? lowerStrides c.toNat = none)
    ⟨fun ⟨sigma, dotted, absent⟩ => ⟨sigma, dotted, absent⟩,
      fun h => ⟨h.not_sigma, h.not_dotted, h.absent⟩⟩

theorem IsLowered.lowerChar_eq (h : IsLowered c) (afterCased : Bool) (rest : Text) :
    lowerChar afterCased c rest = [c] := by
  rw [lowerChar, if_neg h.not_sigma, if_neg h.not_dotted, h.absent]

theorem lowerStrides_apart : ∀ r ∈ lowerStrides, lowerStrides.all r.apart = true := by
  decide +kernel

/-- The two capitals that are not in the table are no images either. -/
theorem lowerStrides_clear : ∀ r ∈ lowerStrides, ∀ special ∈ [0x3A3, 0x130],
    r.lastImage < special ∨ special < r.image := by
  decide +kernel

theorem isLowered_of_imageOf? (h : Stride.imageOf? lowerStrides n = some m) :
    IsLowered (Char.ofNat m) := by
  obtain ⟨r, hr, held, image⟩ := Stride.exists_of_imageOf? h
  have sent : m = r.send n := image
  by_cases valid : m.isValidChar
  · have value : (Char.ofNat m).toNat = m := by rw [Char.toNat_ofNat, if_pos valid]
    have other : ∀ special : Char, special.toNat ∈ [0x3A3, 0x130] → Char.ofNat m ≠ special := by
      intro special hs he
      rw [← he, value] at hs
      have clear := lowerStrides_clear r hr m hs
      have above : r.image ≤ r.send n := Nat.le_add_right _ _
      have below := Stride.send_le_lastImage held
      omega
    refine ⟨other 'Σ' (by decide), other 'İ' (by decide), ?_⟩
    rw [value, sent]
    exact Stride.imageOf?_send_of_apart (List.all_eq_true.mp (lowerStrides_apart r hr)) held
  · rw [Char.ofNat, dif_neg valid]
    decide

theorem isLowered_of_mem_lowerChar (h : d ∈ lowerChar afterCased c rest) : IsLowered d := by
  rcases cases_of_mem_lowerChar h with
    ⟨-, rfl | rfl⟩ | ⟨-, rfl | rfl⟩ | ⟨m, image, rfl⟩ | ⟨rfl, sigma, dotted, absent⟩
  · decide
  · decide
  · decide
  · decide
  · exact isLowered_of_imageOf? image
  · exact ⟨sigma, dotted, absent⟩

theorem isLowered_of_mem_lowerFrom (h : c ∈ lowerFrom afterCased text) : IsLowered c := by
  induction text generalizing afterCased with
  | nil => cases h
  | cons d rest ih =>
    rcases List.mem_append.mp h with first | later
    · exact isLowered_of_mem_lowerChar first
    · exact ih later

theorem lowerFrom_of_isLowered (h : ∀ c ∈ text, IsLowered c) (afterCased : Bool) :
    lowerFrom afterCased text = text := by
  induction text generalizing afterCased with
  | nil => rfl
  | cons c rest ih =>
    obtain ⟨first, later⟩ := List.forall_mem_cons.mp h
    rw [lowerFrom, first.lowerChar_eq, ih later]
    rfl

/-- Lowering leaves alone just the texts of lowered characters, for it puts no other character into
a text. -/
theorem lower_eq_self_iff : lower text = text ↔ ∀ c ∈ text, IsLowered c := by
  constructor
  · intro fixed c hc
    rw [← fixed] at hc
    exact isLowered_of_mem_lowerFrom hc
  · intro h
    exact lowerFrom_of_isLowered h false

theorem lower_lower (text : Text) : lower (lower text) = lower text :=
  lower_eq_self_iff.mpr fun _ => isLowered_of_mem_lowerFrom

end Text

namespace Key

open Text

/-- Every usage of a source and both keys of an identifier are left alone by lowering, as are just
the texts without a character that has another lower-case form. So a usage and a key are the same
just if they are so after each is lowered any number of times more. -/
theorem usages_and_keys_fixed (ns : Namespace) (source identifier : Text) :
    (∀ usage ∈ usages ns source, lower usage = usage) ∧
    lower (accessor ns identifier) = accessor ns identifier ∧
    lower (literal identifier) = literal identifier ∧
    (∀ text : Text, lower text = text ↔ ∀ c ∈ text, IsLowered c) ∧
    ∀ usage ∈ usages ns source, ∀ m n : ℕ,
      (lower^[m] usage = lower^[n] (accessor ns identifier) ↔ usage = accessor ns identifier) ∧
      (lower^[m] usage = lower^[n] (literal identifier) ↔ usage = literal identifier) := by
  have used : ∀ usage ∈ usages ns source, lower usage = usage := by
    intro usage hu
    obtain ⟨token, -, rfl⟩ := mem_usages.mp hu
    exact lower_lower _
  have accessed : lower (accessor ns identifier) = accessor ns identifier := lower_lower _
  have quoted : lower (literal identifier) = literal identifier := lower_lower _
  refine ⟨used, accessed, quoted, fun _ => lower_eq_self_iff, ?_⟩
  intro usage hu m n
  rw [Function.iterate_fixed (used usage hu), Function.iterate_fixed accessed,
    Function.iterate_fixed quoted]
  exact ⟨Iff.rfl, Iff.rfl⟩

/-- A dotted capital becomes two characters, and a sigma takes its form from what follows it. Both
are settled by the first lowering. -/
theorem usages_and_keys_fixed_dotted :
    "i\u0307σ.home".toList ∈ usages ⟨"İΣ".toList, by decide⟩ "İΣ.Home \"@ΑΣ\"".toList ∧
    literal "ΑΣ".toList ∈ usages ⟨"İΣ".toList, by decide⟩ "İΣ.Home \"@ΑΣ\"".toList ∧
    lower "i\u0307σ.home".toList = "i\u0307σ.home".toList ∧
    lower "\"@ας\"".toList = "\"@ας\"".toList ∧
    ∀ m n : ℕ, lower^[m] "i\u0307σ.home".toList ≠ lower^[n] (literal "ΑΣ".toList) := by
  have called : "i\u0307σ.home".toList ∈
      usages ⟨"İΣ".toList, by decide⟩ "İΣ.Home \"@ΑΣ\"".toList :=
    mem_usages.mpr ⟨.accessor "Home".toList, by decide +kernel, by decide +kernel⟩
  have written : literal "ΑΣ".toList ∈
      usages ⟨"İΣ".toList, by decide⟩ "İΣ.Home \"@ΑΣ\"".toList :=
    mem_usages.mpr ⟨.literal "ΑΣ".toList, by decide +kernel, rfl⟩
  have spelled : literal "ΑΣ".toList = "\"@ας\"".toList := by decide +kernel
  obtain ⟨used, -, quoted, -, alike⟩ := usages_and_keys_fixed ⟨"İΣ".toList, by decide⟩
    "İΣ.Home \"@ΑΣ\"".toList "ΑΣ".toList
  refine ⟨called, written, used _ called, spelled ▸ quoted, ?_⟩
  intro m n same
  have equal := (alike _ called m n).2.mp same
  rw [spelled] at equal
  exact absurd equal (by decide)

end Key

end StringsAudit

import StringsAudit.Key

/-!
# Texts of lines

A text of lines that each end in a line feed is cut into these lines again, if none of them holds
a line feed. Lowering and capitalizing put no control character and no digit into a text, so the
key of an identifier stands on one line if the namespace and the identifier do.
-/

set_option autoImplicit false

namespace StringsAudit

namespace Text

variable {c : Char} {n : Nat} {text : Text} {lines : List Text}

def endLines (lines : List Text) : Text := lines.flatMap (· ++ ['\n'])

theorem endLines_append (lines more : List Text) :
    endLines (lines ++ more) = endLines lines ++ endLines more :=
  List.flatMap_append

theorem splitOn_endLines (single : ∀ line ∈ lines, '\n' ∉ line) (last : Text) :
    splitOn '\n' (endLines lines ++ last) = lines ++ splitOn '\n' last := by
  induction lines with
  | nil => rfl
  | cons line lines ih =>
    obtain ⟨hl, rest⟩ := List.forall_mem_cons.mp single
    have shape : endLines (line :: lines) ++ last = line ++ '\n' :: (endLines lines ++ last) := by
      simp [endLines]
    rw [shape, splitOn_append_sep, splitOn_of_not_mem hl, ih rest]
    rfl

theorem mem_joinWith {sep : Char} {pieces : List Text} (h : c ∈ joinWith sep pieces) :
    c = sep ∨ ∃ piece ∈ pieces, c ∈ piece := by
  fun_induction joinWith sep pieces with
  | case1 => cases h
  | case2 piece => exact .inr ⟨piece, by simp, h⟩
  | case3 piece next pieces ih =>
    rcases List.mem_append.mp h with hp | hr
    · exact .inr ⟨piece, by simp, hp⟩
    · rcases List.mem_cons.mp hr with he | hm
      · exact .inl he
      · rcases ih hm with he | ⟨other, ho, hc⟩
        · exact .inl he
        · exact .inr ⟨other, List.mem_cons_of_mem _ ho, hc⟩

def IsLow (c : Char) : Prop := 0 < c.toNat ∧ c.toNat < 0x41

instance (c : Char) : Decidable (IsLow c) :=
  inferInstanceAs (Decidable (0 < c.toNat ∧ c.toNat < 0x41))

def IsBelowSmall (c : Char) : Prop := 0 < c.toNat ∧ c.toNat < 0x61

instance (c : Char) : Decidable (IsBelowSmall c) :=
  inferInstanceAs (Decidable (0 < c.toNat ∧ c.toNat < 0x61))

theorem IsLow.isBelowSmall (h : IsLow c) : IsBelowSmall c := ⟨h.1, Nat.lt_trans h.2 (by decide)⟩

theorem ne_ofNat (positive : 0 < c.toNat) (below : c.toNat < n) : c ≠ Char.ofNat n := by
  rintro rfl
  by_cases hv : n.isValidChar
  · have value : (Char.ofNat n).toNat = n := by
      rw [Char.ofNat, dif_pos hv]
      rfl
    omega
  · have value : (Char.ofNat n).toNat = 0 := by
      rw [Char.ofNat, dif_neg hv]
      rfl
    omega

theorem ne_of_imageOf? {strides : List Stride} {m : Nat} (positive : 0 < c.toNat)
    (high : ∀ r ∈ strides, c.toNat < r.image) (hm : Stride.imageOf? strides n = some m) :
    c ≠ Char.ofNat m := by
  obtain ⟨r, hr, -, rfl⟩ := Stride.exists_of_imageOf? hm
  exact ne_ofNat positive (Nat.lt_add_right _ (high r hr))

theorem lowerStrides_high : ∀ r ∈ lowerStrides, 0x61 ≤ r.image := by decide +kernel

theorem titleStrides_high : ∀ r ∈ titleStrides, 0x41 ≤ r.image := by decide +kernel

theorem titleExpansions_high : ∀ e ∈ titleExpansions, ∀ n ∈ e.2, 0x41 ≤ n := by decide

theorem IsBelowSmall.eq_of_mem_lowerChar {afterCased : Bool} {d : Char} {rest : Text}
    (h : IsBelowSmall c) (hc : c ∈ lowerChar afterCased d rest) : c = d := by
  rcases cases_of_mem_lowerChar hc with
    ⟨-, rfl | rfl⟩ | ⟨-, rfl | rfl⟩ | ⟨m, hm, he⟩ | ⟨he, -⟩
  · exact absurd h (by decide)
  · exact absurd h (by decide)
  · exact absurd h (by decide)
  · exact absurd h (by decide)
  · have high : ∀ r ∈ lowerStrides, c.toNat < r.image := fun r hr =>
      Nat.lt_of_lt_of_le h.2 (lowerStrides_high r hr)
    exact absurd he (ne_of_imageOf? h.1 high hm)
  · exact he

theorem IsBelowSmall.mem_of_mem_lowerFrom {afterCased : Bool} (h : IsBelowSmall c)
    (hc : c ∈ lowerFrom afterCased text) : c ∈ text := by
  induction text generalizing afterCased with
  | nil => exact hc
  | cons d rest ih =>
    rcases List.mem_append.mp hc with hd | hr
    · exact h.eq_of_mem_lowerChar hd ▸ List.mem_cons_self
    · exact List.mem_cons_of_mem d (ih hr)

theorem IsBelowSmall.mem_of_mem_lower (h : IsBelowSmall c) (hc : c ∈ lower text) : c ∈ text :=
  h.mem_of_mem_lowerFrom hc

theorem IsLow.eq_of_mem_titleChar {d : Char} (h : IsLow c) (hc : c ∈ titleChar d) : c = d := by
  rw [titleChar] at hc
  split at hc
  next points found =>
    obtain ⟨n, hn, rfl⟩ := List.mem_map.mp hc
    obtain ⟨before, after, entries, -⟩ := List.lookup_eq_some_iff.mp found
    have entry : (d.toNat, points) ∈ titleExpansions := by simp [entries]
    exact absurd rfl (ne_ofNat h.1 (Nat.lt_of_lt_of_le h.2 (titleExpansions_high _ entry n hn)))
  next =>
    split at hc
    next hm =>
      have high : ∀ r ∈ titleStrides, c.toNat < r.image := fun r hr =>
        Nat.lt_of_lt_of_le h.2 (titleStrides_high r hr)
      exact absurd (List.mem_singleton.mp hc) (ne_of_imageOf? h.1 high hm)
    next => exact List.mem_singleton.mp hc

theorem IsLow.mem_of_mem_capitalize (h : IsLow c) (hc : c ∈ capitalize text) : c ∈ text := by
  cases text with
  | nil => exact hc
  | cons d rest =>
    rcases List.mem_append.mp hc with hd | hr
    · exact h.eq_of_mem_titleChar hd ▸ List.mem_cons_self
    · exact List.mem_cons_of_mem d (h.isBelowSmall.mem_of_mem_lowerFrom hr)

end Text

namespace Key

open Text

variable {ns : Namespace} {c : Char} {identifier segment : Text}

theorem mem_of_mem_camelCase (h : IsLow c) {cap : Bool} (hc : c ∈ camelCase segment cap) :
    c ∈ segment := by
  have within : ∀ word ∈ splitOn '_' (lower segment), c ∈ word → c ∈ segment :=
    fun word hw hm => h.isBelowSmall.mem_of_mem_lower (mem_of_mem_splitOn hw hm)
  rw [camelCase] at hc
  cases hs : splitOn '_' (lower segment) with
  | nil => exact absurd hs (splitOn_ne_nil '_' _)
  | cons word words =>
    rw [hs] at hc within
    rcases List.mem_append.mp hc with hf | hr
    · apply within word (by simp)
      cases cap with
      | false => exact hf
      | true => exact h.mem_of_mem_capitalize hf
    · obtain ⟨other, ho, hm⟩ := List.mem_flatMap.mp hr
      exact within other (List.mem_cons_of_mem _ ho) (h.mem_of_mem_capitalize hm)

theorem mem_of_mem_accessorName (h : IsLow c) (dot : c ≠ '.')
    (hc : c ∈ accessorName identifier) : c ∈ identifier := by
  have within : ∀ segment ∈ splitOn '.' identifier, ∀ cap, c ∈ camelCase segment cap →
      c ∈ identifier :=
    fun segment hs cap hm => mem_of_mem_splitOn hs (mem_of_mem_camelCase h hm)
  rw [accessorName] at hc
  split at hc
  next => cases hc
  next segment hs => exact within segment (by simp [hs]) true hc
  next first others _ hs =>
    rcases mem_joinWith hc with he | ⟨piece, hp, hm⟩
    · exact absurd he dot
    · rcases List.mem_cons.mp hp with rfl | hp
      · exact within first (by simp [hs]) false hm
      · obtain ⟨other, ho, rfl⟩ := List.mem_map.mp hp
        exact within other (by simp [hs, ho]) true hm

theorem newline_not_mem_accessor (hn : '\n' ∉ ns.name) (hi : '\n' ∉ identifier) :
    '\n' ∉ accessor ns identifier := by
  have low : IsLow '\n' := by decide
  intro hc
  rcases List.mem_append.mp (low.isBelowSmall.mem_of_mem_lower hc) with hm | hm
  · exact hn hm
  · rcases List.mem_cons.mp hm with he | hm
    · exact absurd he (by decide)
    · exact hi (mem_of_mem_accessorName low (by decide) hm)

end Key

end StringsAudit

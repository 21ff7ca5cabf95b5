import Mathlib
import StringsAudit.Text.Case

/-!
# Letter case in ASCII

On ASCII text the case tables change each character by itself, whatever stands around it, and
capitalizing changes nothing that lowering does not take back. Behind any other text, what is
lowered tells ASCII texts apart just by what they are without case.
-/

set_option autoImplicit false

namespace StringsAudit.Text

variable {c : Char} {text : Text}

def IsAscii (text : Text) : Prop := ∀ c ∈ text, c.toNat < 128

instance (text : Text) : Decidable (IsAscii text) :=
  List.decidableBAll (fun c : Char => c.toNat < 128) text

theorem isAscii_append {other : Text} :
    IsAscii (text ++ other) ↔ IsAscii text ∧ IsAscii other := List.forall_mem_append

theorem isAscii_cons : IsAscii (c :: text) ↔ c.toNat < 128 ∧ IsAscii text := List.forall_mem_cons

theorem isAscii_of_mem_splitOn {sep : Char} {piece : Text} (h : IsAscii text)
    (hp : piece ∈ splitOn sep text) : IsAscii piece := by
  intro c hc
  exact h c (mem_of_mem_splitOn hp hc)

/-- A character that is no letter is lowered to by itself only. -/
theorem toLower_eq_iff {d : Char} (hd : d.isAlpha = false) : c.toLower = d ↔ c = d := by
  by_cases hu : c.isUpper = true
  · have hc : c.isAlpha = true := by simp [Char.isAlpha, hu]
    constructor
    · rintro rfl
      rw [Char.isAlpha_toLower_eq_isAlpha, hc] at hd
      cases hd
    · rintro rfl
      rw [hc] at hd
      cases hd
  · rw [Char.toLower_eq_of_not_isUpper hu]

/-- Lowering a letter takes no character into ASCII and none out of it. -/
theorem toLower_lt_iff (c : Char) : c.toLower.toNat < 128 ↔ c.toNat < 128 := by
  by_cases hu : c.isUpper = true
  · rw [Char.toLower_eq_of_isUpper hu]
    have hb : c.toNat ≤ 90 := by
      simp only [Char.isUpper, Bool.decide_and, Bool.and_eq_true, decide_eq_true_eq] at hu
      exact hu.2
    have hv : (c.toNat + 32).isValidChar := .inl (by omega)
    rw [Char.toNat_ofNat, if_pos hv]
    omega
  · rw [Char.toLower_eq_of_not_isUpper hu]

theorem isAscii_map_toLower : IsAscii (text.map Char.toLower) ↔ IsAscii text := by
  simp only [IsAscii, List.forall_mem_map, toLower_lt_iff]

/-- Below 128 the lower-case table holds the capital letters and nothing else. -/
theorem lowerStrides_ascii : ∀ n < 128,
    (Stride.imageOf? lowerStrides n).elim (Char.ofNat n) Char.ofNat = (Char.ofNat n).toLower := by
  decide +kernel

theorem titleChar_ofNat : ∀ n < 128, titleChar (Char.ofNat n) = [(Char.ofNat n).toUpper] := by
  decide +kernel

theorem lowerChar_of_ascii (hc : c.toNat < 128) (afterCased : Bool) (rest : Text) :
    lowerChar afterCased c rest = [c.toLower] := by
  have hs : c ≠ 'Σ' := by
    rintro rfl
    exact absurd hc (by decide)
  have hi : c ≠ 'İ' := by
    rintro rfl
    exact absurd hc (by decide)
  have ht := lowerStrides_ascii c.toNat hc
  rw [Char.ofNat_toNat] at ht
  rw [lowerChar, if_neg hs, if_neg hi, ← ht]
  cases Stride.imageOf? lowerStrides c.toNat <;> rfl

theorem titleChar_of_ascii (hc : c.toNat < 128) : titleChar c = [c.toUpper] := by
  have ht := titleChar_ofNat c.toNat hc
  rwa [Char.ofNat_toNat] at ht

theorem lowerFrom_of_ascii (h : IsAscii text) (afterCased : Bool) :
    lowerFrom afterCased text = text.map Char.toLower := by
  induction text generalizing afterCased with
  | nil => rfl
  | cons c text ih =>
    obtain ⟨hc, ht⟩ := isAscii_cons.mp h
    rw [lowerFrom, lowerChar_of_ascii hc, ih ht]
    rfl

theorem lower_of_ascii (h : IsAscii text) : lower text = text.map Char.toLower :=
  lowerFrom_of_ascii h false

theorem map_toLower_capitalize (h : IsAscii text) :
    (capitalize text).map Char.toLower = text.map Char.toLower := by
  cases text with
  | nil => rfl
  | cons c text =>
    obtain ⟨hc, ht⟩ := isAscii_cons.mp h
    rw [capitalize, titleChar_of_ascii hc, lowerFrom_of_ascii ht]
    simp

def lowerBefore (next : Text) (afterCased : Bool) : Text → Text
  | [] => []
  | c :: rest =>
    lowerChar afterCased c (rest ++ next) ++ lowerBefore next (casedThrough afterCased c) rest

theorem lowerFrom_append (afterCased : Bool) (text next : Text) :
    lowerFrom afterCased (text ++ next) =
      lowerBefore next afterCased text ++ lowerFrom (text.foldl casedThrough afterCased) next := by
  induction text generalizing afterCased with
  | nil => rfl
  | cons c text ih =>
    rw [List.cons_append, lowerFrom, ih, lowerBefore, List.append_assoc, List.foldl_cons]

theorem length_lowerChar (afterCased : Bool) (c : Char) (rest other : Text) :
    (lowerChar afterCased c rest).length = (lowerChar afterCased c other).length := by
  by_cases hs : c = 'Σ'
  · simp [lowerChar, hs]
  · simp [lowerChar, hs]

/-- Which form a capital sigma takes depends on what follows it, but not how much room it takes. -/
theorem length_lowerBefore (next other : Text) (afterCased : Bool) (text : Text) :
    (lowerBefore next afterCased text).length = (lowerBefore other afterCased text).length := by
  induction text generalizing afterCased with
  | nil => rfl
  | cons c text ih =>
    rw [lowerBefore, lowerBefore, List.length_append, List.length_append, ih,
      length_lowerChar afterCased c (text ++ next) (text ++ other)]

theorem startsCased_append_congr {next other : Text} (h : startsCased next = startsCased other)
    (text : Text) : startsCased (text ++ next) = startsCased (text ++ other) := by
  induction text with
  | nil => exact h
  | cons c text ih => rw [List.cons_append, List.cons_append, startsCased, startsCased, ih]

theorem lowerBefore_congr {next other : Text} (h : startsCased next = startsCased other)
    (afterCased : Bool) (text : Text) :
    lowerBefore next afterCased text = lowerBefore other afterCased text := by
  induction text generalizing afterCased with
  | nil => rfl
  | cons c text ih =>
    rw [lowerBefore, lowerBefore, ih, lowerChar, lowerChar, lowerSigma, lowerSigma,
      startsCased_append_congr h]

/-- A letter and its lower case are the same to a capital sigma before them. -/
theorem class_toLower_ofNat : ∀ n < 128,
    isCaseIgnorable (Char.ofNat n).toLower = isCaseIgnorable (Char.ofNat n) ∧
      isCased (Char.ofNat n).toLower = isCased (Char.ofNat n) := by
  decide +kernel

theorem startsCased_map_toLower (h : IsAscii text) :
    startsCased (text.map Char.toLower) = startsCased text := by
  induction text with
  | nil => rfl
  | cons c text ih =>
    obtain ⟨hc, ht⟩ := isAscii_cons.mp h
    have same := class_toLower_ofNat c.toNat hc
    rw [Char.ofNat_toNat] at same
    rw [List.map_cons, startsCased, startsCased, same.1, same.2, ih ht]

theorem lower_append_of_ascii (h : IsAscii text) (before : Text) :
    lower (before ++ text) = lowerBefore text false before ++ text.map Char.toLower := by
  rw [lower, lowerFrom_append, lowerFrom_of_ascii h]

theorem lower_append_eq_iff {other : Text} (h : IsAscii text) (ho : IsAscii other)
    (before : Text) :
    lower (before ++ text) = lower (before ++ other) ↔
      text.map Char.toLower = other.map Char.toLower := by
  rw [lower_append_of_ascii h, lower_append_of_ascii ho]
  constructor
  · intro he
    exact (List.append_inj he (length_lowerBefore text other false before)).2
  · intro he
    have starts : startsCased text = startsCased other := by
      rw [← startsCased_map_toLower h, he, startsCased_map_toLower ho]
    rw [lowerBefore_congr starts, he]

end StringsAudit.Text

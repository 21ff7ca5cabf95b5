import StringsAudit.Text.Basic
import StringsAudit.Text.CaseTable

/-!
# Letter case

Lowering a text looks at the surroundings of a capital sigma, which becomes the final form at
the end of a word and the ordinary one elsewhere. Capitalizing puts the first character into
title case and lowers the rest.
-/

set_option autoImplicit false

namespace StringsAudit.Text

def isCased (c : Char) : Bool := Interval.covers casedIntervals c.toNat

def isCaseIgnorable (c : Char) : Bool := Interval.covers caseIgnorableIntervals c.toNat

def startsCased : Text → Bool
  | [] => false
  | c :: rest => if isCaseIgnorable c then startsCased rest else isCased c

/-- Tells, for the place behind `c`, whether the last character that is not case-ignorable is a
cased one; `afterCased` tells it for the place before `c`. -/
def casedThrough (afterCased : Bool) (c : Char) : Bool :=
  if isCaseIgnorable c then afterCased else isCased c

def lowerSigma (afterCased : Bool) (rest : Text) : Char :=
  if afterCased && !startsCased rest then 'ς' else 'σ'

def lowerChar (afterCased : Bool) (c : Char) (rest : Text) : Text :=
  if c = 'Σ' then [lowerSigma afterCased rest]
  else if c = 'İ' then ['i', '\u0307']
  else match Stride.imageOf? lowerStrides c.toNat with
    | some n => [Char.ofNat n]
    | none => [c]

def lowerFrom (afterCased : Bool) : Text → Text
  | [] => []
  | c :: rest => lowerChar afterCased c rest ++ lowerFrom (casedThrough afterCased c) rest

def lower (text : Text) : Text := lowerFrom false text

def titleChar (c : Char) : Text :=
  match titleExpansions.lookup c.toNat with
  | some points => points.map Char.ofNat
  | none =>
    match Stride.imageOf? titleStrides c.toNat with
    | some n => [Char.ofNat n]
    | none => [c]

def capitalize : Text → Text
  | [] => []
  | c :: rest => titleChar c ++ lowerFrom (casedThrough false c) rest

/-- All that can stand for a character in a lowered text. -/
theorem cases_of_mem_lowerChar {afterCased : Bool} {c d : Char} {rest : Text}
    (h : d ∈ lowerChar afterCased c rest) :
    (c = 'Σ' ∧ (d = 'ς' ∨ d = 'σ')) ∨ (c = 'İ' ∧ (d = 'i' ∨ d = '\u0307')) ∨
      (∃ n, Stride.imageOf? lowerStrides c.toNat = some n ∧ d = Char.ofNat n) ∨
      (d = c ∧ c ≠ 'Σ' ∧ c ≠ 'İ' ∧ Stride.imageOf? lowerStrides c.toNat = none) := by
  rw [lowerChar] at h
  split at h
  next sigma =>
    refine .inl ⟨sigma, ?_⟩
    rw [List.mem_singleton.mp h, lowerSigma]
    split
    · exact .inl rfl
    · exact .inr rfl
  next notSigma =>
    split at h
    next dotted => exact .inr (.inl ⟨dotted, by simpa using h⟩)
    next notDotted =>
      split at h
      next n image => exact .inr (.inr (.inl ⟨n, image, List.mem_singleton.mp h⟩))
      next image => exact .inr (.inr (.inr ⟨List.mem_singleton.mp h, notSigma, notDotted, image⟩))

/-- A character that is neither cased nor case-ignorable keeps the texts on its two sides from
seeing each other. -/
theorem startsCased_append_cons {c : Char} (hi : isCaseIgnorable c = false)
    (hc : isCased c = false) (a b : Text) : startsCased (a ++ c :: b) = startsCased a := by
  induction a with
  | nil => simp [startsCased, hi, hc]
  | cons d a ih => simp [startsCased, ih]

theorem lowerFrom_append_cons {c : Char} (hi : isCaseIgnorable c = false)
    (hc : isCased c = false) (afterCased : Bool) (a b : Text) :
    lowerFrom afterCased (a ++ c :: b) =
      lowerFrom afterCased a ++ lowerFrom false (c :: b) := by
  induction a generalizing afterCased with
  | nil =>
    have hs : c ≠ 'Σ' := by
      rintro rfl
      exact absurd hc (by decide)
    simp [lowerFrom, lowerChar, casedThrough, hi, hc, hs]
  | cons d a ih =>
    simp only [List.cons_append, lowerFrom, ih, List.append_assoc]
    simp [lowerChar, lowerSigma, startsCased_append_cons hi hc]

end StringsAudit.Text

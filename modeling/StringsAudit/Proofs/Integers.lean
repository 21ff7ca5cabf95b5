import Mathlib.Data.Nat.Digits.Defs
import StringsAudit.Proofs.Stripping
import StringsAudit.Text.Integer

/-!
# Written integers

The grammar of written integers: a sign or none, then digits of any script, between two of which
one underscore may stand. A text is read just if it is such an integer with blanks around it and
keeps to the limit of digits, and what is read is the integer's value to the base ten.
-/

set_option autoImplicit false

namespace StringsAudit.Text

variable {text rest core : Text} {digits : List Nat} {c : Char} {d n : Nat}

def IsDigitOf (c : Char) (d : Nat) : Prop := d < 10 ∧ ∃ z ∈ digitZeros, c.toNat = z + d

inductive Numeral : Text → List Nat → Prop
  | digit {c : Char} {d : Nat} (h : IsDigitOf c d) : Numeral [c] [d]
  | next {c : Char} {d : Nat} {text : Text} {digits : List Nat} (h : IsDigitOf c d)
      (rest : Numeral text digits) : Numeral (c :: text) (d :: digits)
  | underscore {c : Char} {d : Nat} {text : Text} {digits : List Nat} (h : IsDigitOf c d)
      (rest : Numeral text digits) : Numeral (c :: '_' :: text) (d :: digits)

inductive Written : Text → Int → Prop
  | unsigned {text : Text} {digits : List Nat} (numeral : Numeral text digits)
      (limited : digits.length ≤ 4300) : Written text (Nat.ofDigits 10 digits.reverse : Nat)
  | plus {text : Text} {digits : List Nat} (numeral : Numeral text digits)
      (limited : digits.length ≤ 4300) :
      Written ('+' :: text) (Nat.ofDigits 10 digits.reverse : Nat)
  | minus {text : Text} {digits : List Nat} (numeral : Numeral text digits)
      (limited : digits.length ≤ 4300) :
      Written ('-' :: text) (-(Nat.ofDigits 10 digits.reverse : Nat))

theorem zeroOf?_eq_some_iff {zeros : List Nat} (apart : zeros.Pairwise fun a b => a + 10 ≤ b)
    {z : Nat} : zeroOf? zeros n = some z ↔ z ∈ zeros ∧ z ≤ n ∧ n < z + 10 := by
  constructor
  · intro h
    refine ⟨?_, zeroOf?_bounds h⟩
    fun_induction zeroOf? zeros n with
    | case1 => cases h
    | case2 => cases h
    | case3 first => exact Option.some.inj h ▸ List.mem_cons_self
    | case4 first _ _ _ _ ih =>
      exact List.mem_cons_of_mem _ (ih (List.pairwise_cons.mp apart).2 h)
  · rintro ⟨member, least, most⟩
    induction zeros with
    | nil => cases member
    | cons first others ih =>
      obtain ⟨further, apart⟩ := List.pairwise_cons.mp apart
      rw [zeroOf?]
      rcases List.mem_cons.mp member with rfl | hm
      · rw [if_neg (Nat.not_lt_of_le least), if_pos most]
      · have beyond := further z hm
        rw [if_neg (by omega), if_neg (by omega), ih apart hm]

theorem digitZeros_apart : digitZeros.Pairwise fun a b => a + 10 ≤ b := by
  decide

theorem digitValue?_eq_some_iff : digitValue? c = some d ↔ IsDigitOf c d := by
  rw [digitValue?, Option.map_eq_some_iff]
  simp only [zeroOf?_eq_some_iff digitZeros_apart]
  constructor
  · rintro ⟨z, ⟨member, least, most⟩, rfl⟩
    exact ⟨by omega, z, member, by omega⟩
  · rintro ⟨hd, z, member, hc⟩
    exact ⟨z, ⟨member, by omega, by omega⟩, by omega⟩

theorem moreDigits?_underscore (text : Text) : moreDigits? ('_' :: text) = digits? text := by
  cases text with
  | nil => rfl
  | cons c rest => rfl

theorem moreDigits?_of_digits? (h : digits? text = some digits) :
    moreDigits? text = some digits := by
  rw [moreDigits?.eq_def]
  split
  next => cases h
  next => cases h
  next => exact h

/-- What may stand behind a digit completes a numeral. -/
theorem numeral_of_moreDigits? (first : IsDigitOf c d) (h : moreDigits? text = some digits) :
    Numeral (c :: text) (d :: digits) := by
  fun_induction moreDigits? text generalizing c d digits with
  | case1 =>
    obtain rfl := Option.some.inj h
    exact .digit first
  | case2 c' rest d' digits' hr hd ih =>
    obtain rfl := Option.some.inj h
    exact .underscore first (ih (digitValue?_eq_some_iff.mp hd) hr)
  | case3 => cases h
  | case4 c' rest _ d' digits' hr hd ih =>
    obtain rfl := Option.some.inj h
    exact .next first (ih (digitValue?_eq_some_iff.mp hd) hr)
  | case5 => cases h

theorem digits?_cons_eq_some_iff {first : Nat} :
    digits? (c :: text) = some (first :: digits) ↔
      digitValue? c = some first ∧ moreDigits? text = some digits := by
  rw [digits?]
  cases digitValue? c <;> cases moreDigits? text <;> simp

theorem digits?_eq_some_iff : digits? text = some digits ↔ Numeral text digits := by
  constructor
  · intro h
    rw [digits?.eq_def] at h
    split at h
    next => cases h
    next =>
      split at h
      next hd hr =>
        obtain rfl := Option.some.inj h
        exact numeral_of_moreDigits? (digitValue?_eq_some_iff.mp hd) hr
      next => cases h
  · intro h
    induction h with
    | digit h => exact digits?_cons_eq_some_iff.mpr ⟨digitValue?_eq_some_iff.mpr h, rfl⟩
    | next h _ ih =>
      exact digits?_cons_eq_some_iff.mpr
        ⟨digitValue?_eq_some_iff.mpr h, moreDigits?_of_digits? ih⟩
    | underscore h _ ih =>
      exact digits?_cons_eq_some_iff.mpr
        ⟨digitValue?_eq_some_iff.mpr h, (moreDigits?_underscore _).trans ih⟩

theorem ofDigits_eq (digits : List Nat) : ofDigits digits = Nat.ofDigits 10 digits.reverse := by
  rw [ofDigits, Nat.ofDigits_eq_foldr, List.foldr_reverse]
  simp only [Nat.cast_id, Nat.add_comm]

theorem natural?_eq_some_iff : natural? text = some n ↔
    ∃ digits, Numeral text digits ∧ digits.length ≤ 4300 ∧ Nat.ofDigits 10 digits.reverse = n := by
  rw [natural?]
  constructor
  · intro h
    split at h
    next => cases h
    next digits hd =>
      split at h
      next => cases h
      next limited =>
        refine ⟨digits, digits?_eq_some_iff.mp hd, Nat.le_of_not_lt limited, ?_⟩
        rw [← ofDigits_eq]
        exact Option.some.inj h
  · rintro ⟨digits, numeral, limited, rfl⟩
    rw [digits?_eq_some_iff.mpr numeral, ← ofDigits_eq]
    exact if_neg (Nat.not_lt_of_le limited)

/-- A numeral begins with a digit and so with no sign. -/
theorem Numeral.unsigned (h : Numeral text digits) :
    (∀ rest, text ≠ '+' :: rest) ∧ ∀ rest, text ≠ '-' :: rest := by
  have begins : ∃ c rest d, text = c :: rest ∧ digitValue? c = some d := by
    cases h with
    | digit h => exact ⟨_, _, _, rfl, digitValue?_eq_some_iff.mpr h⟩
    | next h => exact ⟨_, _, _, rfl, digitValue?_eq_some_iff.mpr h⟩
    | underscore h => exact ⟨_, _, _, rfl, digitValue?_eq_some_iff.mpr h⟩
  obtain ⟨c, rest, d, rfl, hd⟩ := begins
  have other : c ≠ '+' ∧ c ≠ '-' := by
    constructor
    · rintro rfl
      cases hd
    · rintro rfl
      cases hd
  exact ⟨fun _ he => other.1 (List.cons.inj he).1, fun _ he => other.2 (List.cons.inj he).1⟩

theorem map_natCast (sign : Int → Int) (number : Option Nat) :
    (do let n ← number; pure (n : Int)).map sign = number.map fun n : Nat => sign n := by
  cases number <;> rfl

/-- Just the written integers are read, and as what they are worth. -/
theorem integer?_eq_some_iff {n : Int} :
    integer? text = some n ↔ ∃ core, Padded core text ∧ Written core n := by
  simp only [padded_iff, exists_eq_left']
  rw [integer?]
  generalize strip isBlank text = core
  simp only [map_natCast]
  constructor
  · intro h
    split at h
    next rest =>
      obtain ⟨value, hv, rfl⟩ := Option.map_eq_some_iff.mp h
      obtain ⟨digits, numeral, limited, rfl⟩ := natural?_eq_some_iff.mp hv
      exact .plus numeral limited
    next rest =>
      obtain ⟨value, hv, rfl⟩ := Option.map_eq_some_iff.mp h
      obtain ⟨digits, numeral, limited, rfl⟩ := natural?_eq_some_iff.mp hv
      exact .minus numeral limited
    next =>
      obtain ⟨value, hv, rfl⟩ := Option.map_eq_some_iff.mp h
      obtain ⟨digits, numeral, limited, rfl⟩ := natural?_eq_some_iff.mp hv
      exact .unsigned numeral limited
  · intro h
    cases h with
    | unsigned numeral limited =>
      have read := natural?_eq_some_iff.mpr ⟨_, numeral, limited, rfl⟩
      split
      next rest => exact absurd rfl (numeral.unsigned.1 rest)
      next rest => exact absurd rfl (numeral.unsigned.2 rest)
      next => rw [read, Option.map_some]
    | plus numeral limited =>
      simp only [natural?_eq_some_iff.mpr ⟨_, numeral, limited, rfl⟩, Option.map_some]
    | minus numeral limited =>
      simp only [natural?_eq_some_iff.mpr ⟨_, numeral, limited, rfl⟩, Option.map_some]

end StringsAudit.Text

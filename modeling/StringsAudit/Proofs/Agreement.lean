import StringsAudit.Proofs.Naming
import StringsAudit.Proofs.Passing

/-!
# Keys and tokens agree

The keys of an identifier and the usages of a source are spelled by separate rules, and both are
lowered. On ASCII identifiers they meet just where an accessor has the identifier's letters or a
literal lowers to the identifier's own; the two kinds of key never meet each other's tokens.
-/

set_option autoImplicit false

namespace StringsAudit.Key

open Text Token

variable {ns : Namespace} {source identifier before lexeme : Text}

def Accessed (ns : Namespace) (source identifier : Text) : Prop :=
  ∃ before run, Takes ns source before (ns.name ++ '.' :: run) ∧
    run.map Char.toLower = bare identifier

def Quoted (ns : Namespace) (source identifier : Text) : Prop :=
  ∃ before inner, Takes ns source before ('"' :: '@' :: inner ++ ['"']) ∧
    lower ('"' :: '@' :: inner ++ ['"']) = '"' :: '@' :: lower identifier ++ ['"']

theorem head?_lower_quote (rest : Text) : (lower ('"' :: rest)).head? = some '"' := by
  rw [lower, lowerFrom, lowerChar_of_ascii (by decide)]
  rfl

theorem head?_lower_namespace (hn : IsAscii ns.name) (hq : '"' ∉ ns.name) (rest : Text) :
    (lower (ns.name ++ rest)).head? ≠ some '"' := by
  cases hs : ns.name with
  | nil => exact absurd hs ns.name_ne_nil
  | cons c name =>
    rw [hs] at hn hq
    have hc : c.toLower ≠ '"' := by
      rw [ne_eq, toLower_eq_iff (by decide)]
      rintro rfl
      exact hq List.mem_cons_self
    rw [List.cons_append, lower, lowerFrom, lowerChar_of_ascii (isAscii_cons.mp hn).1]
    simpa using hc

/-- No accessor has a literal's key, and no literal an accessor's. -/
theorem lower_namespace_ne_lower_quote (hn : IsAscii ns.name) (hq : '"' ∉ ns.name)
    (a b : Text) : lower (ns.name ++ a) ≠ lower ('"' :: b) := by
  intro h
  have hh := head?_lower_quote b
  rw [← h] at hh
  exact head?_lower_namespace hn hq a hh

theorem lower_accessor_eq_iff (hn : IsAscii ns.name) (hi : IsAscii identifier) {run : Text}
    (hr : ∀ c ∈ run, IsMember c) :
    lower (ns.name ++ '.' :: run) = accessor ns identifier ↔
      run.map Char.toLower = bare identifier := by
  have hrun : IsAscii (ns.name ++ '.' :: run) :=
    isAscii_append.mpr ⟨hn, isAscii_cons.mpr ⟨by decide, fun c hc => (hr c hc).lt⟩⟩
  have hname : IsAscii (ns.name ++ '.' :: accessorName identifier) :=
    isAscii_append.mpr ⟨hn, isAscii_cons.mpr ⟨by decide, isAscii_accessorName hi⟩⟩
  rw [accessor, lower_of_ascii hrun, lower_of_ascii hname]
  simp only [List.map_append, List.map_cons, map_toLower_accessorName hi,
    List.append_cancel_left_eq, List.cons.injEq, true_and]

theorem literal_of_ascii (hi : IsAscii identifier) :
    literal identifier = '"' :: '@' :: lower identifier ++ ['"'] := by
  have hopen : IsAscii ('"' :: '@' :: identifier) :=
    isAscii_cons.mpr ⟨by decide, isAscii_cons.mpr ⟨by decide, hi⟩⟩
  have hf : IsAscii (quotedForm identifier) := isAscii_append.mpr ⟨hopen, by decide⟩
  rw [literal, lower_of_ascii hf, lower_of_ascii hi]
  simp [quotedForm]

/-- What stands behind the namespace in a lexeme that is taken is a run of members. -/
theorem run_of_takes (hq : '"' ∉ ns.name) {run : Text}
    (h : Takes ns source before (ns.name ++ '.' :: run)) : run ≠ [] ∧ ∀ c ∈ run, IsMember c := by
  rcases accessor_or_literal_of_takes h with ⟨run', hne, hr, hl⟩ | ⟨inner, hl⟩
  · obtain ⟨-, rfl⟩ := List.cons.inj (List.append_cancel_left hl)
    exact ⟨hne, hr⟩
  · exact absurd hl (Namespace.name_append_ne_cons hq _ _)

theorem accessor_mem_usages_iff (hn : IsAscii ns.name) (hq : '"' ∉ ns.name)
    (hi : IsAscii identifier) :
    accessor ns identifier ∈ usages ns source ↔ Accessed ns source identifier := by
  rw [mem_usages_iff_takes]
  constructor
  · rintro ⟨before, lexeme, taken, hk⟩
    rcases accessor_or_literal_of_takes taken with ⟨run, -, hr, rfl⟩ | ⟨inner, rfl⟩
    · exact ⟨before, run, taken, (lower_accessor_eq_iff hn hi hr).mp hk⟩
    · exact absurd hk.symm (lower_namespace_ne_lower_quote hn hq _ _)
  · rintro ⟨before, run, taken, hk⟩
    exact ⟨before, _, taken, (lower_accessor_eq_iff hn hi (run_of_takes hq taken).2).mpr hk⟩

theorem literal_mem_usages_iff (hn : IsAscii ns.name) (hq : '"' ∉ ns.name)
    (hi : IsAscii identifier) :
    literal identifier ∈ usages ns source ↔ Quoted ns source identifier := by
  rw [mem_usages_iff_takes, Quoted, ← literal_of_ascii hi]
  constructor
  · rintro ⟨before, lexeme, taken, hk⟩
    rcases accessor_or_literal_of_takes taken with ⟨run, -, -, rfl⟩ | ⟨inner, rfl⟩
    · exact absurd hk (lower_namespace_ne_lower_quote hn hq _ _)
    · exact ⟨before, inner, taken, hk⟩
  · rintro ⟨before, inner, taken, hk⟩
    exact ⟨before, _, taken, hk⟩

/-- Only an identifier that an accessor can name is accessed. -/
theorem nameable_of_accessed (hq : '"' ∉ ns.name)
    (h : Accessed ns source identifier) : Nameable identifier := by
  obtain ⟨before, run, taken, hk⟩ := h
  obtain ⟨hne, hr⟩ := run_of_takes hq taken
  exact nameable_of_run hne hr hk

/-- An ASCII identifier is used just if some accessor of the source has its letters, underscores
and case aside, or some literal lowers to the identifier's own. An identifier that no accessor can
name is used by literals only, and no token has a key of the other kind. -/
theorem isUsed_iff_token (ns : Namespace) (source identifier : Text) (hn : IsAscii ns.name)
    (hq : '"' ∉ ns.name) (hi : IsAscii identifier) :
    (isUsed ns (usages ns source) identifier = true ↔
      Accessed ns source identifier ∨ Quoted ns source identifier) ∧
    ((∃ c ∈ identifier, ¬ IsMember c ∧ c ≠ '_') ∨ (∀ c ∈ identifier, c = '_') →
      (isUsed ns (usages ns source) identifier = true ↔ Quoted ns source identifier)) ∧
    (∀ before run, Takes ns source before (ns.name ++ '.' :: run) →
      lower (ns.name ++ '.' :: run) ≠ literal identifier) ∧
    ∀ before inner, Takes ns source before ('"' :: '@' :: inner ++ ['"']) →
      lower ('"' :: '@' :: inner ++ ['"']) ≠ accessor ns identifier := by
  have used : isUsed ns (usages ns source) identifier = true ↔
      Accessed ns source identifier ∨ Quoted ns source identifier :=
    isUsed_iff.trans (or_congr (accessor_mem_usages_iff hn hq hi) (literal_mem_usages_iff hn hq hi))
  refine ⟨used, ?_, ?_, ?_⟩
  · intro unnameable
    have unaccessed : ¬ Accessed ns source identifier := by
      intro h
      have nameable := nameable_of_accessed hq h
      rcases unnameable with ⟨c, hc, hm, hu⟩ | blank
      · exact (nameable.spelled c hc).elim hm hu
      · obtain ⟨c, hc, hu⟩ := nameable.not_blank
        exact hu (blank c hc)
    rw [used, or_iff_right unaccessed]
  · intro _ run _
    exact lower_namespace_ne_lower_quote hn hq _ _
  · intro _ inner _ h
    exact lower_namespace_ne_lower_quote hn hq _ _ h.symm

/-- A name of two words with two underscores between them, and a literal with the Kelvin sign,
which lowers to a plain letter. -/
theorem isUsed_iff_token_kelvin :
    IsAscii Namespace.standard.name ∧ '"' ∉ Namespace.standard.name ∧
    IsAscii "push__enabled".toList ∧ IsAscii "k v".toList ∧
    isUsed .standard (usages .standard "L10n.PushEnabled \"@\u212A V\"".toList)
      "push__enabled".toList = true ∧
    isUsed .standard (usages .standard "L10n.PushEnabled \"@\u212A V\"".toList) "k v".toList =
      true := by
  have hn : IsAscii Namespace.standard.name := by decide
  have hq : '"' ∉ Namespace.standard.name := by decide
  have hi : IsAscii "push__enabled".toList := by decide
  have hk : IsAscii "k v".toList := by decide
  have all : Token.all .standard "L10n.PushEnabled \"@\u212A V\"".toList =
      [.accessor "PushEnabled".toList, .literal "\u212A V".toList] := by decide
  refine ⟨hn, hq, hi, hk, ?_, ?_⟩
  · obtain ⟨before, taken⟩ := exists_takes_iff.mpr ⟨_, by rw [all]; exact List.mem_cons_self, rfl⟩
    exact (isUsed_iff_token _ _ _ hn hq hi).1.mpr (.inl ⟨before, _, taken, by decide⟩)
  · obtain ⟨before, taken⟩ := exists_takes_iff.mpr
      ⟨.literal "\u212A V".toList, by rw [all]; exact List.mem_cons_of_mem _ List.mem_cons_self, rfl⟩
    exact (isUsed_iff_token _ _ _ hn hq hk).1.mpr (.inr ⟨before, _, taken, by decide⟩)

end StringsAudit.Key

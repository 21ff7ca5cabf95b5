import StringsAudit.Proofs.Arguments

/-!
# Spellings of arguments

A positional and a switch are told apart by their spelling alone. A positional has no dash in front,
or is a lone dash, a negative number, or a dashed text with a blank that spells no switch. A switch
without a value is spelled by the beginnings of its long name that begin no other one.
-/

set_option autoImplicit false

namespace StringsAudit.CommandLine

open Text

variable {arg text digits whole ending : Text} {switch : Switch}

def Shortens (switch : Switch) (arg : Text) : Prop :=
  arg <+: switch.long ∧ ∀ other ∈ Switch.all, arg <+: other.long → other = switch

instance (switch : Switch) (arg : Text) : Decidable (Shortens switch arg) :=
  inferInstanceAs (Decidable (_ ∧ ∀ other ∈ Switch.all, _))

def OneLineEnd (ending : Text) : Prop := ending = [] ∨ ending = ['\n']

inductive NegativeNumber : Text → Prop
  | whole {digits ending : Text} (some_digit : digits ≠ [])
      (decimal : ∀ c ∈ digits, isDigit c = true) (ends : OneLineEnd ending) :
      NegativeNumber ('-' :: digits ++ ending)
  | fraction {whole digits ending : Text} (some_digit : digits ≠ [])
      (decimal : ∀ c ∈ whole ++ digits, isDigit c = true) (ends : OneLineEnd ending) :
      NegativeNumber ('-' :: whole ++ '.' :: digits ++ ending)

structure SpellsNone (arg : Text) : Prop where
  short : ¬ ['-', 'h'] <+: arg
  long : ['-', '-'] <+: arg → ∀ switch ∈ Switch.all, ¬ arg.takeWhile (· ≠ '=') <+: switch.long

inductive Positional (arg : Text) : Prop
  | plain (undashed : arg.head? ≠ some '-')
  | dash (alone : arg = ['-'])
  | number (negative : NegativeNumber arg)
  | spaced (dashed : arg.head? = some '-') (space : ' ' ∈ arg) (unspelled : SpellsNone arg)

theorem Switch.mem_all (switch : Switch) : switch ∈ Switch.all := by
  cases switch <;> decide

theorem Switch.dashed (switch : Switch) : ['-', '-'] <+: switch.long := by
  cases switch <;> decide

/-- The stem ends where the value begins. -/
theorem stemAndValue_fst (arg : Text) : (stemAndValue arg).1 = arg.takeWhile (· ≠ '=') := by
  induction arg with
  | nil => rfl
  | cons c rest ih =>
    by_cases hc : c = '='
    · simp [stemAndValue, cutAt, hc]
    · rw [stemAndValue] at ih
      rw [stemAndValue, cutAt, if_neg hc, List.takeWhile_cons_of_pos (by simpa using hc), ← ih]
      cases cutAt '=' rest <;> rfl

theorem stem_of_cutAt {name value : Text} (h : cutAt '=' arg = some (name, value)) :
    arg.takeWhile (· ≠ '=') = name := by
  rw [← stemAndValue_fst, stemAndValue, h]

theorem stem_long (switch : Switch) : switch.long.takeWhile (· ≠ '=') = switch.long := by
  cases switch <;> decide

theorem named?_eq_some {name : Text} {spelled : Switch × Bool} (h : named? name = some spelled) :
    (name = ['-', 'h'] ∧ spelled = (.help, true)) ∨
      ∃ switch, spelled = (switch, false) ∧ switch.long = name := by
  rw [named?] at h
  split at h
  next hn => exact .inl ⟨hn, (Option.some.inj h).symm⟩
  next =>
    obtain ⟨switch, found, rfl⟩ := Option.map_eq_some_iff.mp h
    have hs := List.find?_some found
    exact .inr ⟨switch, rfl, of_decide_eq_true hs⟩

theorem SpellsNone.named? (h : SpellsNone arg) : named? arg = none := by
  cases hn : CommandLine.named? arg with
  | none => rfl
  | some spelled =>
    rcases named?_eq_some hn with ⟨rfl, -⟩ | ⟨switch, -, rfl⟩
    · exact absurd (List.prefix_refl _) h.short
    · have hs := h.long switch.dashed switch switch.mem_all
      rw [stem_long] at hs
      exact absurd (List.prefix_refl _) hs

theorem SpellsNone.namedWithValue? (h : SpellsNone arg) : namedWithValue? arg = none := by
  rw [CommandLine.namedWithValue?]
  cases hc : cutAt '=' arg with
  | none => rfl
  | some cut =>
    obtain ⟨name, value⟩ := cut
    cases hn : CommandLine.named? name with
    | none => simp [hn]
    | some spelled =>
      have shape := (cutAt_eq_some_iff.mp hc).1
      rcases named?_eq_some hn with ⟨rfl, -⟩ | ⟨switch, -, rfl⟩
      · exact absurd ⟨'=' :: value, shape.symm⟩ h.short
      · have hs := h.long (switch.dashed.trans ⟨'=' :: value, shape.symm⟩) switch switch.mem_all
        rw [stem_of_cutAt hc] at hs
        exact absurd (List.prefix_refl _) hs

theorem mem_abbreviated_iff : switch ∈ abbreviated arg ↔
    ['-', '-'] <+: arg ∧ (stemAndValue arg).1 <+: switch.long := by
  rw [abbreviated, ← List.isPrefixOf_iff_prefix]
  split
  next hd =>
    rw [List.mem_filter, List.isPrefixOf_iff_prefix]
    exact ⟨fun h => ⟨hd, h.2⟩, fun h => ⟨switch.mem_all, h.2⟩⟩
  next hd => exact ⟨nofun, fun h => absurd h.1 hd⟩

theorem abbreviated_eq_nil_iff : abbreviated arg = [] ↔
    (['-', '-'] <+: arg → ∀ switch ∈ Switch.all,
      ¬ arg.takeWhile (· ≠ '=') <+: switch.long) := by
  rw [List.eq_nil_iff_forall_not_mem, ← stemAndValue_fst]
  simp only [mem_abbreviated_iff, not_and]
  exact ⟨fun h dashed switch _ => h switch dashed,
    fun h switch dashed => h dashed switch switch.mem_all⟩

theorem unnamedKind_of_help {value : Text} (h : arg = '-' :: 'h' :: value) :
    unnamedKind arg = .known ⟨.help, true, some value⟩ := by
  rw [h, unnamedKind]

theorem unnamedKind_of_not_help (h : ¬ ['-', 'h'] <+: arg) : unnamedKind arg =
    if isNegativeNumber arg || arg.contains ' ' then .positional else .unknown := by
  rw [unnamedKind.eq_def]
  split
  next value => exact absurd ⟨value, rfl⟩ h
  next => rfl

/-- A dashed text is a positional if it spells no switch and is a number or holds a blank. -/
theorem dashedKind_eq_positional_iff : dashedKind arg = .positional ↔
    SpellsNone arg ∧ (isNegativeNumber arg = true ∨ ' ' ∈ arg) := by
  constructor
  · intro h
    rw [dashedKind.eq_def] at h
    split at h
    next => cases h
    next => cases h
    next =>
      split at h
      next => cases h
      next => cases h
      next habbreviated =>
        have short : ¬ ['-', 'h'] <+: arg := by
          rintro ⟨value, hv⟩
          rw [unnamedKind_of_help hv.symm] at h
          cases h
        rw [unnamedKind_of_not_help short] at h
        split at h
        next hp => exact ⟨⟨short, abbreviated_eq_nil_iff.mp habbreviated⟩, by simpa using hp⟩
        next => cases h
  · rintro ⟨spells, hp⟩
    rw [dashedKind, spells.named?, spells.namedWithValue?,
      abbreviated_eq_nil_iff.mpr spells.long]
    simp only [unnamedKind_of_not_help spells.short]
    rw [if_pos (by simpa using hp)]

theorem isDigits_iff : isDigits text = true ↔ text ≠ [] ∧ ∀ c ∈ text, isDigit c = true := by
  simp [isDigits]

theorem exists_lineEnd (text : Text) :
    ∃ ending, OneLineEnd ending ∧ text = dropFinalNewline text ++ ending := by
  rw [dropFinalNewline]
  split
  next h =>
    obtain ⟨front, rfl⟩ := List.getLast?_eq_some_iff.mp h
    exact ⟨['\n'], .inr rfl, by rw [List.dropLast_concat]⟩
  next => exact ⟨[], .inl rfl, (List.append_nil text).symm⟩

theorem dropFinalNewline_append (ends : OneLineEnd ending) (plain : text.getLast? ≠ some '\n') :
    dropFinalNewline (text ++ ending) = text := by
  rcases ends with rfl | rfl
  · rw [List.append_nil, dropFinalNewline, if_neg plain]
  · rw [dropFinalNewline, List.getLast?_concat, if_pos rfl, List.dropLast_concat]

theorem getLast?_append_digits (front : Text) (some_digit : digits ≠ [])
    (decimal : ∀ c ∈ digits, isDigit c = true) : (front ++ digits).getLast? ≠ some '\n' := by
  rw [List.getLast?_append, List.getLast?_eq_some_getLast some_digit, Option.some_or]
  intro h
  have last := decimal _ (List.getLast_mem some_digit)
  rw [Option.some.inj h] at last
  exact absurd last (by decide)

theorem isNegativeNumber_iff : isNegativeNumber arg = true ↔ NegativeNumber arg := by
  constructor
  · intro h
    rw [isNegativeNumber.eq_def] at h
    split at h
    next rest =>
      obtain ⟨ending, ends, shape⟩ := exists_lineEnd rest
      generalize dropFinalNewline rest = body at h shape
      subst shape
      simp only [Bool.or_eq_true, isDigits_iff] at h
      rcases h with ⟨some_digit, decimal⟩ | h
      · exact .whole some_digit decimal ends
      · split at h
        next => cases h
        next whole fraction hc =>
          obtain ⟨rfl, -⟩ := cutAt_eq_some_iff.mp hc
          simp only [Bool.and_eq_true, List.all_eq_true, isDigits_iff] at h
          obtain ⟨hw, some_digit, hf⟩ := h
          exact .fraction some_digit (List.forall_mem_append.mpr ⟨hw, hf⟩) ends
    next => cases h
  · intro h
    cases h with
    | @whole digits ending some_digit decimal ends =>
      have plain : digits.getLast? ≠ some '\n' := getLast?_append_digits [] some_digit decimal
      rw [List.cons_append, isNegativeNumber]
      simp only [dropFinalNewline_append ends plain, isDigits_iff.mpr ⟨some_digit, decimal⟩,
        Bool.true_or]
    | @fraction whole digits ending some_digit decimal ends =>
      obtain ⟨hw, hf⟩ := List.forall_mem_append.mp decimal
      have point : '.' ∉ whole := fun hc => absurd (hw '.' hc) (by decide)
      have hcut := cutAt_eq_some_iff.mpr ⟨(rfl : whole ++ '.' :: digits = _), point⟩
      have plain : (whole ++ '.' :: digits).getLast? ≠ some '\n' := by
        rw [List.append_cons]
        exact getLast?_append_digits (whole ++ ['.']) some_digit hf
      rw [List.cons_append, List.cons_append, isNegativeNumber]
      simp only [dropFinalNewline_append ends plain, hcut, List.all_eq_true.mpr hw,
        isDigits_iff.mpr ⟨some_digit, hf⟩, Bool.and_self, Bool.or_true]

theorem NegativeNumber.head (h : NegativeNumber arg) :
    ∃ c rest, arg = '-' :: c :: rest ∧ (isDigit c = true ∨ c = '.') := by
  cases h with
  | @whole digits ending some_digit decimal ends =>
    cases digits with
    | nil => exact absurd rfl some_digit
    | cons c rest => exact ⟨c, rest ++ ending, rfl, .inl (decimal c List.mem_cons_self)⟩
  | @fraction whole digits ending some_digit decimal ends =>
    cases whole with
    | nil => exact ⟨'.', digits ++ ending, rfl, .inr rfl⟩
    | cons c rest =>
      exact ⟨c, rest ++ '.' :: digits ++ ending, rfl, .inl (decimal c List.mem_cons_self)⟩

/-- Behind the dash of a number stands neither a dash nor a letter. -/
theorem NegativeNumber.spellsNone (h : NegativeNumber arg) : SpellsNone arg := by
  obtain ⟨c, rest, rfl, hc⟩ := h.head
  have other : c ≠ 'h' ∧ c ≠ '-' := by
    rcases hc with hc | rfl
    · constructor
      · rintro rfl
        exact absurd hc (by decide)
      · rintro rfl
        exact absurd hc (by decide)
    · decide
  constructor
  · rintro ⟨value, hv⟩
    simp only [List.cons_append, List.cons.injEq] at hv
    exact other.1 hv.2.1.symm
  · rintro ⟨value, hv⟩
    simp only [List.cons_append, List.cons.injEq] at hv
    exact absurd hv.2.1.symm other.2

theorem not_spellsNone_marker : ¬ SpellsNone ['-', '-'] := by
  intro h
  exact h.long (List.prefix_refl _) .help (by decide) (by decide)

theorem kindOf_dashed {rest : Text} (long : rest ≠ []) (unmarked : rest ≠ ['-']) :
    kindOf ('-' :: rest) = dashedKind ('-' :: rest) := by
  rw [kindOf]
  · rintro rfl
    exact long rfl
  · rintro rfl
    exact unmarked rfl

/-- The positionals are told by how they are spelled. -/
theorem kindOf_eq_positional_iff : kindOf arg = .positional ↔ Positional arg := by
  by_cases hplain : arg.head? = some '-'
  · obtain ⟨rest, rfl⟩ := List.head?_eq_some_iff.mp hplain
    by_cases hdash : rest = []
    · subst hdash
      exact iff_of_true rfl (.dash rfl)
    by_cases hmarker : rest = ['-']
    · subst hmarker
      apply iff_of_false (by decide)
      intro h
      cases h with
      | plain undashed => exact undashed rfl
      | dash alone => cases alone
      | number negative => exact not_spellsNone_marker negative.spellsNone
      | spaced _ _ unspelled => exact not_spellsNone_marker unspelled
    rw [kindOf_dashed hdash hmarker, dashedKind_eq_positional_iff, isNegativeNumber_iff]
    constructor
    · rintro ⟨spells, negative | space⟩
      · exact .number negative
      · exact .spaced rfl space spells
    · intro h
      cases h with
      | plain undashed => exact absurd rfl undashed
      | dash alone => exact absurd (List.cons.inj alone).2 hdash
      | number negative => exact ⟨negative.spellsNone, .inl negative⟩
      | spaced _ space unspelled => exact ⟨unspelled, .inr space⟩
  · exact iff_of_true (kindOf_of_head_ne hplain) (.plain hplain)

instance (arg : Text) : Decidable (Positional arg) :=
  decidable_of_iff (kindOf arg = .positional) kindOf_eq_positional_iff

theorem Shortens.eq_of_prefix (h : Shortens switch arg) {other : Switch}
    (hp : arg <+: other.long) : other = switch :=
  h.2 other other.mem_all hp

theorem shortens_long (switch : Switch) : Shortens switch switch.long := by
  cases switch <;> decide

/-- Two characters are not enough to tell the switches apart. -/
theorem Shortens.length (h : Shortens switch arg) : 2 < arg.length := by
  apply Nat.lt_of_not_le
  intro short
  have hp : arg <+: ['-', '-'] := List.prefix_of_prefix_length_le h.1 switch.dashed short
  have help := h.eq_of_prefix (hp.trans Switch.help.dashed)
  have write := h.eq_of_prefix (hp.trans Switch.write.dashed)
  rw [← help] at write
  cases write

theorem Shortens.dashed (h : Shortens switch arg) :
    ∃ c rest, arg = '-' :: '-' :: c :: rest := by
  obtain ⟨rest, rfl⟩ : ['-', '-'] <+: arg :=
    List.prefix_of_prefix_length_le switch.dashed h.1 (Nat.le_of_lt h.length)
  cases rest with
  | nil => exact absurd h.length (by decide)
  | cons c rest => exact ⟨c, rest, rfl⟩

theorem Shortens.cutAt_eq_none (h : Shortens switch arg) : cutAt '=' arg = none := by
  have absent : '=' ∉ switch.long := by cases switch <;> decide
  exact cutAt_eq_none_iff.mpr fun hc => absent (h.1.mem hc)

theorem stemAndValue_of_none (h : cutAt '=' arg = none) : stemAndValue arg = (arg, none) := by
  rw [stemAndValue, h]

theorem stem_eq_of_none (h : (stemAndValue arg).2 = none) : (stemAndValue arg).1 = arg := by
  rw [stemAndValue] at h ⊢
  cases hc : cutAt '=' arg with
  | none => rfl
  | some cut =>
    rw [hc] at h
    cases h

theorem Shortens.abbreviated (h : Shortens switch arg) : abbreviated arg = [switch] := by
  have only : ∀ other ∈ Switch.all, arg.isPrefixOf other.long = decide (other = switch) := by
    intro other ho
    rw [Bool.eq_iff_iff, List.isPrefixOf_iff_prefix, decide_eq_true_iff]
    constructor
    · exact h.2 other ho
    · rintro rfl
      exact h.1
  obtain ⟨c, rest, hd⟩ := h.dashed
  have dashed : ['-', '-'].isPrefixOf arg = true := by rw [hd]; rfl
  rw [CommandLine.abbreviated, stemAndValue_of_none h.cutAt_eq_none, if_pos dashed,
    List.filter_congr only]
  cases switch <;> rfl

/-- Cut short without a doubt, or in full, a switch's name spells the switch. -/
theorem spells_of_shortens (h : Shortens switch arg) : Spells switch arg := by
  have kind : kindOf arg = dashedKind arg := by
    obtain ⟨c, rest, rfl⟩ := h.dashed
    exact kindOf_dashed (by simp) (by simp)
  have unvalued := h.cutAt_eq_none
  rw [Spells, kind, dashedKind, namedWithValue?, unvalued, stemAndValue_of_none unvalued,
    h.abbreviated]
  cases hn : named? arg with
  | none => rfl
  | some spelled =>
    rcases named?_eq_some hn with ⟨rfl, -⟩ | ⟨other, rfl, rfl⟩
    · exact absurd h.length (by decide)
    · rw [h.eq_of_prefix (List.prefix_refl _)]

theorem namedWithValue?_value {spelled : Spelled} (h : namedWithValue? arg = some spelled) :
    spelled.value ≠ none := by
  rw [namedWithValue?] at h
  split at h
  next => cases h
  next =>
    obtain ⟨_, -, rfl⟩ := Option.map_eq_some_iff.mp h
    exact Option.some_ne_none _

theorem shortens_of_abbreviated (h : abbreviated arg = [switch])
    (unvalued : (stemAndValue arg).2 = none) : Shortens switch arg := by
  have member : switch ∈ abbreviated arg := by simp [h]
  obtain ⟨dashed, hp⟩ := mem_abbreviated_iff.mp member
  refine ⟨stem_eq_of_none unvalued ▸ hp, fun other _ ho => ?_⟩
  have also : other ∈ abbreviated arg :=
    mem_abbreviated_iff.mpr ⟨dashed, (stem_eq_of_none unvalued).symm ▸ ho⟩
  simpa [h] using also

theorem dashedKind_of_known {spelled : Spelled} (h : kindOf arg = .known spelled) :
    dashedKind arg = .known spelled := by
  rw [kindOf.eq_def] at h
  split at h
  next => cases h
  next => cases h
  next => cases h
  next => exact h
  next => cases h

/-- How a dashed text spells a switch: by its name, with a value, or cut short. -/
theorem spelling_of_known {spelled : Spelled} (h : dashedKind arg = .known spelled) :
    (∃ name, named? arg = some name ∧ spelled = ⟨name.1, name.2, none⟩) ∨ spelled.value ≠ none ∨
      ∃ switch, abbreviated arg = [switch] ∧ spelled = ⟨switch, false, (stemAndValue arg).2⟩ := by
  rw [dashedKind.eq_def] at h
  split at h
  next name hn => exact .inl ⟨name, hn, (Kind.known.inj h).symm⟩
  next hv =>
    cases h
    exact .inr (.inl (namedWithValue?_value hv))
  next =>
    split at h
    next other ha => exact .inr (.inr ⟨other, ha, (Kind.known.inj h).symm⟩)
    next => cases h
    next =>
      rw [unnamedKind.eq_def] at h
      split at h
      next =>
        cases h
        exact .inr (.inl (Option.some_ne_none _))
      next => split at h <;> cases h

theorem shortens_of_spells (h : Spells switch arg) : Shortens switch arg := by
  rcases spelling_of_known (dashedKind_of_known h) with
    ⟨name, hn, same⟩ | valued | ⟨other, ha, same⟩
  · rcases named?_eq_some hn with ⟨-, rfl⟩ | ⟨other, rfl, rfl⟩
    · cases same
    · cases same
      exact shortens_long _
  · exact absurd rfl valued
  · simp only [Spelled.mk.injEq, true_and] at same
    obtain ⟨rfl, unvalued⟩ := same
    exact shortens_of_abbreviated ha unvalued.symm

theorem spells_iff_shortens : Spells switch arg ↔ Shortens switch arg :=
  ⟨shortens_of_spells, spells_of_shortens⟩

theorem Positional.not_shortens (h : Positional arg) : ¬ Shortens switch arg := by
  intro short
  have kind := spells_of_shortens short
  rw [Spells, kindOf_eq_positional_iff.mpr h] at kind
  cases kind

end StringsAudit.CommandLine

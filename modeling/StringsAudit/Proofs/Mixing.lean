import StringsAudit.Proofs.Spellings

/-!
# Switches among positionals

Where all arguments are positionals and switches without a value, the switches may stand anywhere:
what is read depends on the positionals in their order and on which switches occur. Of the
positionals none is lost but the bare words that count as switches.
-/

set_option autoImplicit false

namespace StringsAudit.CommandLine

open Text

variable {arg : Text} {args : List Text}

def Asks (arg : Text) : Prop := Shortens .storyboard arg ∨ Shortens .write arg

instance (arg : Text) : Decidable (Asks arg) :=
  inferInstanceAs (Decidable (_ ∨ _))

def withoutSwitches (args : List Text) : List Text := args.filter fun arg => ¬ Asks arg

inductive DropsLast (word : Text) : List Text → Bool → List Text → Prop
  | taken (words : List Text) : DropsLast word (words ++ [word]) true words
  | kept {words : List Text} (other : words.getLast? ≠ some word) :
      DropsLast word words false words

inductive DropsFirst (word : Text) : List Text → Bool → List Text → Prop
  | taken {front : List Text} (back : List Text) (first : word ∉ front) :
      DropsFirst word (front ++ word :: back) true (front ++ back)
  | kept {words : List Text} (absent : word ∉ words) : DropsFirst word words false words

theorem regular_of_mixed (h : Positional arg ∨ Asks arg) : Regular arg := by
  rcases h with h | h | h
  · exact .positional (kindOf_eq_positional_iff.mpr h)
  · exact .asking .storyboard (by decide) (spells_of_shortens h)
  · exact .asking .write (by decide) (spells_of_shortens h)

/-- Without the switches the positionals are left, and nothing else. -/
theorem positionals_of_mixed (mixed : ∀ arg ∈ args, Positional arg ∨ Asks arg) :
    positionals args = withoutSwitches args := by
  apply List.filter_congr
  intro arg ha
  rw [decide_eq_decide, kindOf_eq_positional_iff]
  constructor
  · rintro positional (h | h)
    · exact positional.not_shortens h
    · exact positional.not_shortens h
  · exact (mixed arg ha).resolve_right

namespace Flags

theorem storyboard_raised : (none.raised args).storyboard = true ↔
    ∃ arg ∈ args, Shortens .storyboard arg := by
  simp only [raised, none, Bool.false_or, List.any_eq_true, decide_eq_true_iff, spells_iff_shortens]

theorem write_raised : (none.raised args).write = true ↔ ∃ arg ∈ args, Shortens .write arg := by
  simp only [raised, none, Bool.false_or, List.any_eq_true, decide_eq_true_iff, spells_iff_shortens]

/-- Only which of the two switches occur counts, not where or how often. -/
theorem raised_congr {others : List Text} (occurs : ∀ switch, switch ≠ .help →
    ((∃ arg ∈ others, Shortens switch arg) ↔ ∃ arg ∈ args, Shortens switch arg)) :
    none.raised others = none.raised args := by
  have storyboard := storyboard_raised.trans
    ((occurs .storyboard (by decide)).trans storyboard_raised.symm)
  have write := write_raised.trans ((occurs .write (by decide)).trans write_raised.symm)
  rw [raised, raised, Flags.mk.injEq]
  exact ⟨Bool.eq_iff_iff.mpr storyboard, Bool.eq_iff_iff.mpr write⟩

end Flags

namespace Invocation

theorem takeStoryboardWord_drops (invocation : Invocation) : ∃ taken,
    DropsLast storyboardWord invocation.directories taken
      invocation.takeStoryboardWord.directories ∧
    invocation.takeStoryboardWord.storyboard = (taken || invocation.storyboard) ∧
    invocation.takeStoryboardWord.write = invocation.write := by
  obtain ⟨directories, storyboard, write⟩ := invocation
  by_cases hl : directories.getLast? = some storyboardWord
  · obtain ⟨words, rfl⟩ := List.getLast?_eq_some_iff.mp hl
    rw [takeStoryboardWord_append]
    exact ⟨true, .taken words, rfl, rfl⟩
  · rw [takeStoryboardWord_of_ne hl]
    exact ⟨false, .kept hl, rfl, rfl⟩

theorem takeWriteWord_drops (invocation : Invocation) : ∃ taken,
    DropsFirst writeWord invocation.directories taken invocation.takeWriteWord.directories ∧
    invocation.takeWriteWord.storyboard = invocation.storyboard ∧
    invocation.takeWriteWord.write = (taken || invocation.write) := by
  obtain ⟨directories, storyboard, write⟩ := invocation
  by_cases hw : writeWord ∈ directories
  · obtain ⟨front, back, rfl, first⟩ := List.eq_append_cons_of_mem hw
    rw [takeWriteWord_append first]
    exact ⟨true, .taken back first, rfl, rfl⟩
  · rw [takeWriteWord_of_not_mem hw]
    exact ⟨false, .kept hw, rfl, rfl⟩

theorem parse_eq_of_mixed (mixed : ∀ arg ∈ args, Positional arg ∨ Asks arg) :
    parse args = .ok (Invocation.mk (withoutSwitches args) (Flags.none.raised args).storyboard
      (Flags.none.raised args).write).takeStoryboardWord.takeWriteWord := by
  rw [parse_of_regular fun arg ha => regular_of_mixed (mixed arg ha), positionals_of_mixed mixed]

/-- Switches may stand anywhere among the positionals: what is read depends on the positionals
and on which switches occur. The bare words apart, no positional is lost or moved. -/
theorem parse_of_mixed (mixed : ∀ arg ∈ args, Positional arg ∨ Asks arg) :
    (∃ invocation kept storyboardTaken writeTaken, parse args = .ok invocation ∧
      DropsLast storyboardWord (withoutSwitches args) storyboardTaken kept ∧
      DropsFirst writeWord kept writeTaken invocation.directories ∧
      (invocation.storyboard = true ↔
        storyboardTaken = true ∨ ∃ arg ∈ args, Shortens .storyboard arg) ∧
      (invocation.write = true ↔ writeTaken = true ∨ ∃ arg ∈ args, Shortens .write arg)) ∧
    ∀ others : List Text, (∀ arg ∈ others, Positional arg ∨ Asks arg) →
      withoutSwitches others = withoutSwitches args →
      (∀ switch, switch ≠ .help →
        ((∃ arg ∈ others, Shortens switch arg) ↔ ∃ arg ∈ args, Shortens switch arg)) →
      parse others = parse args := by
  constructor
  · obtain ⟨storyboardTaken, drops, storyboard, write⟩ := takeStoryboardWord_drops
      (Invocation.mk (withoutSwitches args) (Flags.none.raised args).storyboard
        (Flags.none.raised args).write)
    generalize hi : (Invocation.mk _ _ _).takeStoryboardWord = first at drops storyboard write
    obtain ⟨writeTaken, dropsWrite, storyboard', write'⟩ := takeWriteWord_drops first
    refine ⟨_, _, storyboardTaken, writeTaken, hi ▸ parse_eq_of_mixed mixed, drops, dropsWrite,
      ?_, ?_⟩
    · rw [storyboard', storyboard, Bool.or_eq_true, Flags.storyboard_raised]
    · rw [write', write, Bool.or_eq_true, Flags.write_raised]
  · intro others mixed' same occurs
    rw [parse_eq_of_mixed mixed', parse_eq_of_mixed mixed, same, Flags.raised_congr occurs]

/-- Switches cut short and repeated, a number and a text with a blank among the directories. -/
theorem parse_of_mixed_abbreviations :
    (∀ arg ∈ [writeWord, "-1.5".toList, "--st".toList, "-x y".toList, writeWord, "--w".toList,
      storyboardWord, "--st".toList], Positional arg ∨ Asks arg) ∧
    parse [writeWord, "-1.5".toList, "--st".toList, "-x y".toList, writeWord, "--w".toList,
      storyboardWord, "--st".toList] =
        .ok ⟨["-1.5".toList, "-x y".toList, writeWord], true, true⟩ ∧
    parse ["--storyboard".toList, writeWord, "-1.5".toList, "-x y".toList, writeWord,
      storyboardWord, "--write".toList] =
        .ok ⟨["-1.5".toList, "-x y".toList, writeWord], true, true⟩ := by
  have mixed : ∀ arg ∈ [writeWord, "-1.5".toList, "--st".toList, "-x y".toList, writeWord,
      "--w".toList, storyboardWord, "--st".toList], Positional arg ∨ Asks arg := by decide
  have parsed : parse [writeWord, "-1.5".toList, "--st".toList, "-x y".toList, writeWord,
      "--w".toList, storyboardWord, "--st".toList] =
        .ok ⟨["-1.5".toList, "-x y".toList, writeWord], true, true⟩ := rfl
  have occurs : ∀ switch, switch ≠ .help →
      ((∃ arg ∈ ["--storyboard".toList, writeWord, "-1.5".toList, "-x y".toList, writeWord,
        storyboardWord, "--write".toList], Shortens switch arg) ↔
      ∃ arg ∈ [writeWord, "-1.5".toList, "--st".toList, "-x y".toList, writeWord,
        "--w".toList, storyboardWord, "--st".toList], Shortens switch arg) := by
    intro switch helpless
    cases switch with
    | help => exact absurd rfl helpless
    | storyboard => decide
    | write => decide
  exact ⟨mixed, parsed, ((parse_of_mixed mixed).2 _ (by decide) (by decide) occurs).trans parsed⟩

end Invocation

end StringsAudit.CommandLine

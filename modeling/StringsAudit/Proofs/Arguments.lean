import StringsAudit.CommandLine.Invocation

/-!
# Readings of arguments

Where each argument is a positional or asks for storyboards or for write mode, both readings keep
every positional in its order, and each switch acts wherever it stands. The bare words are then
taken from the positionals: a `write` wherever it stands, a `storyboard` in last place alone.
-/

set_option autoImplicit false

namespace StringsAudit.CommandLine

open Text

variable {arg : Text} {args : List Text} {flags : Flags} {switch : Switch}

def Spells (switch : Switch) (arg : Text) : Prop := kindOf arg = .known ⟨switch, false, none⟩

instance (switch : Switch) (arg : Text) : Decidable (Spells switch arg) :=
  inferInstanceAs (Decidable (_ = _))

inductive Regular (arg : Text) : Prop
  | positional (kind : kindOf arg = .positional)
  | asking (switch : Switch) (helpless : switch ≠ .help) (spelled : Spells switch arg)

def positionals (args : List Text) : List Text :=
  args.filter fun arg => kindOf arg = .positional

namespace Flags

def raise (flags : Flags) : Switch → Flags
  | .help => flags
  | .storyboard => { flags with storyboard := true }
  | .write => { flags with write := true }

def raised (flags : Flags) (args : List Text) : Flags where
  storyboard := flags.storyboard || args.any fun arg => Spells .storyboard arg
  write := flags.write || args.any fun arg => Spells .write arg

theorem raised_cons_of_positional (kind : kindOf arg = .positional) :
    flags.raised (arg :: args) = flags.raised args := by
  simp [raised, Spells, kind]

theorem raised_cons_of_spells (helpless : switch ≠ .help) (spelled : Spells switch arg) :
    flags.raised (arg :: args) = (flags.raise switch).raised args := by
  rw [Spells] at spelled
  cases switch with
  | help => exact absurd rfl helpless
  | storyboard => simp [raised, raise, Spells, spelled]
  | write => simp [raised, raise, Spells, spelled]

end Flags

theorem act_of_spells (helpless : switch ≠ .help) (flags : Flags) :
    act ⟨switch, false, none⟩ flags = .ok (flags.raise switch) := by
  cases switch with
  | help => exact absurd rfl helpless
  | storyboard => rfl
  | write => rfl

theorem positionals_cons (kind : kindOf arg = .positional) :
    positionals (arg :: args) = arg :: positionals args :=
  List.filter_cons_of_pos (by simpa using kind)

theorem positionals_cons_of_spells (spelled : Spells switch arg) :
    positionals (arg :: args) = positionals args := by
  rw [Spells] at spelled
  exact List.filter_cons_of_neg (by simp [spelled])

theorem classify_of_regular (regular : ∀ arg ∈ args, Regular arg) :
    classify args = .ok (args.map fun arg => (arg, kindOf arg)) := by
  induction args with
  | nil => rfl
  | cons arg args ih =>
    obtain ⟨first, rest⟩ := List.forall_mem_cons.mp regular
    rw [classify, ih rest, List.map_cons]
    cases first with
    | positional kind =>
      rw [kind]
      rfl
    | asking switch _ spelled =>
      rw [Spells] at spelled
      rw [spelled]
      rfl

theorem readSwitches_of_regular (regular : ∀ arg ∈ args, Regular arg) (flags : Flags)
    (seen : Bool) : readSwitches flags seen (args.map fun arg => (arg, kindOf arg)) =
      .ok (flags.raised args, positionals args) := by
  induction args generalizing flags seen with
  | nil => simp [readSwitches, Flags.raised, positionals]
  | cons arg args ih =>
    obtain ⟨first, rest⟩ := List.forall_mem_cons.mp regular
    rw [List.map_cons]
    cases first with
    | positional kind =>
      rw [kind, readSwitches, ih rest, Flags.raised_cons_of_positional kind, positionals_cons kind]
      rfl
    | asking switch helpless spelled =>
      -- The switch acts before the rest is read, so the rest is read with other flags.
      rw [Flags.raised_cons_of_spells helpless spelled, positionals_cons_of_spells spelled,
        ← ih rest _ seen]
      rw [Spells] at spelled
      rw [spelled, readSwitches, act_of_spells helpless]
      rfl

/-- Positionals alone, which the second reading takes as one run. -/
theorem readDirectories_of_positionals {phase : Phase} (running : phase ≠ .after)
    (flags : Flags) (args : List Text) :
    readDirectories flags phase (args.map fun arg => (arg, .positional)) =
      .ok ⟨flags, args, []⟩ := by
  induction args generalizing phase with
  | nil => rfl
  | cons arg args ih =>
    rw [List.map_cons, readDirectories, if_neg running, ih (by decide)]
    rfl

theorem kindOf_of_mem_positionals (h : arg ∈ positionals args) : kindOf arg = .positional := by
  simpa using (List.mem_filter.mp h).2

theorem classify_positionals (args : List Text) :
    classify (positionals args) = .ok ((positionals args).map fun arg => (arg, .positional)) := by
  rw [classify_of_regular fun arg h => .positional (kindOf_of_mem_positionals h)]
  congr 1
  exact List.map_congr_left fun arg h => by rw [kindOf_of_mem_positionals h]

/-- Nothing but the switches is lost, and nothing changes its place, from one reading to the
other. -/
theorem readArguments_of_regular (regular : ∀ arg ∈ args, Regular arg) :
    readArguments args = .ok (Flags.none.raised args, positionals args) := by
  have unmarked : ['-', '-'] ∉ positionals args :=
    fun h => absurd (kindOf_of_mem_positionals h) (by decide)
  have running : Phase.before ≠ .after := by decide
  have run := readDirectories_of_positionals running (Flags.none.raised args) (positionals args)
  rw [readArguments, classify_of_regular regular]
  show (readSwitches _ _ _ >>= _) = _
  rw [readSwitches_of_regular regular]
  show (classify (positionals args) >>= _) = _
  rw [classify_positionals]
  show (readDirectories _ _ _ >>= _) = _
  rw [run]
  show Except.ok (_, (positionals args).erase ['-', '-']) = _
  rw [List.erase_of_not_mem unmarked]

theorem kindOf_of_head_ne (plain : arg.head? ≠ some '-') : kindOf arg = .positional := by
  rw [kindOf.eq_def]
  split
  next => rfl
  next => rfl
  next => exact absurd rfl plain
  next => exact absurd rfl plain
  next => rfl

theorem positionals_of_plain (plain : ∀ arg ∈ args, arg.head? ≠ some '-') :
    positionals args = args :=
  List.filter_eq_self.mpr fun arg h => by simpa using kindOf_of_head_ne (plain arg h)

theorem Flags.raised_of_plain (plain : ∀ arg ∈ args, arg.head? ≠ some '-') :
    flags.raised args = flags := by
  induction args with
  | nil => simp [raised]
  | cons arg args ih =>
    obtain ⟨first, rest⟩ := List.forall_mem_cons.mp plain
    rw [raised_cons_of_positional (kindOf_of_head_ne first), ih rest]

/-- A word put between the front of a list and its back. -/
theorem insertIdx_length_append {α : Type} (front back : List α) (a : α) :
    (front ++ back).insertIdx front.length a = front ++ a :: back := by
  induction front with
  | nil => rfl
  | cons b front ih => rw [List.cons_append, List.length_cons, List.insertIdx_succ_cons, ih]; rfl

namespace Invocation

variable {front back ds : List Text} {storyboard write : Bool}

theorem parse_of_regular (regular : ∀ arg ∈ args, Regular arg) :
    parse args = .ok (Invocation.mk (positionals args) (Flags.none.raised args).storyboard
      (Flags.none.raised args).write).takeStoryboardWord.takeWriteWord := by
  rw [parse, readArguments_of_regular regular]
  rfl

theorem takeWriteWord_of_not_mem (h : writeWord ∉ ds) :
    (Invocation.mk ds storyboard write).takeWriteWord = ⟨ds, storyboard, write⟩ :=
  if_neg h

theorem takeWriteWord_append (h : writeWord ∉ front) :
    (Invocation.mk (front ++ writeWord :: back) storyboard write).takeWriteWord =
      ⟨front ++ back, storyboard, true⟩ := by
  rw [takeWriteWord, if_pos (by simp), List.erase_append_right _ h, List.erase_cons_head]

theorem takeStoryboardWord_of_ne (h : ds.getLast? ≠ some storyboardWord) :
    (Invocation.mk ds storyboard write).takeStoryboardWord = ⟨ds, storyboard, write⟩ :=
  if_neg h

theorem takeStoryboardWord_append (ds : List Text) :
    (Invocation.mk (ds ++ [storyboardWord]) storyboard write).takeStoryboardWord =
      ⟨ds, true, write⟩ := by
  rw [takeStoryboardWord, if_pos (by simp), List.dropLast_concat]

/-- Taking a `write` turns write mode on and does nothing else, unless it hides a `storyboard`. -/
theorem takeWords_append (h : writeWord ∉ front)
    (unbarred : back = [] → front.getLast? ≠ some storyboardWord) :
    (Invocation.mk (front ++ writeWord :: back) storyboard write).takeStoryboardWord.takeWriteWord =
      (Invocation.mk (front ++ back) storyboard true).takeStoryboardWord := by
  rcases List.eq_nil_or_concat back with rfl | ⟨middle, last, rfl⟩
  · have behind : (front ++ [writeWord]).getLast? ≠ some storyboardWord := by
      rw [List.getLast?_concat]
      decide
    rw [takeStoryboardWord_of_ne behind, takeWriteWord_append h, List.append_nil,
      takeStoryboardWord_of_ne (unbarred rfl)]
  · have whole : front ++ writeWord :: middle.concat last =
        (front ++ writeWord :: middle) ++ [last] := by simp
    have kept : front ++ middle.concat last = (front ++ middle) ++ [last] := by simp
    rw [whole, kept]
    by_cases hl : last = storyboardWord
    · rw [hl, takeStoryboardWord_append, takeStoryboardWord_append, takeWriteWord_append h]
    · have ends : ∀ ds : List Text, (ds ++ [last]).getLast? ≠ some storyboardWord := by
        intro ds
        rw [List.getLast?_concat]
        exact fun he => hl (Option.some.inj he)
      rw [takeStoryboardWord_of_ne (ends _), takeStoryboardWord_of_ne (ends _), ← whole, ← kept,
        takeWriteWord_append h]

theorem parse_writeSwitch (plain : ∀ d ∈ ds, d.head? ≠ some '-') (other : writeWord ∉ ds) :
    parse (Switch.write.long :: ds) =
      .ok (Invocation.mk ds false true).takeStoryboardWord := by
  have spelled : Spells .write Switch.write.long := by decide
  have regular : ∀ arg ∈ Switch.write.long :: ds, Regular arg :=
    List.forall_mem_cons.mpr
      ⟨.asking .write (by decide) spelled, fun d h => .positional (kindOf_of_head_ne (plain d h))⟩
  rw [parse_of_regular regular, positionals_cons_of_spells spelled, positionals_of_plain plain,
    Flags.raised_cons_of_spells (by decide) spelled, Flags.raised_of_plain plain]
  have untaken : writeWord ∉ (Invocation.mk ds false true).takeStoryboardWord.directories := by
    rw [takeStoryboardWord]
    split
    next => exact fun h => other ((List.dropLast_sublist ds).mem h)
    next => exact other
  exact congrArg Except.ok (takeWriteWord_of_not_mem untaken)

theorem parse_of_plain (plain : ∀ arg ∈ args, arg.head? ≠ some '-') :
    parse args = .ok (Invocation.mk args false false).takeStoryboardWord.takeWriteWord := by
  rw [parse_of_regular fun arg h => .positional (kindOf_of_head_ne (plain arg h)),
    positionals_of_plain plain, Flags.raised_of_plain plain]
  rfl

theorem plain_insert (front back : List Text) (plain : ∀ d ∈ front ++ back, d.head? ≠ some '-') :
    ∀ d ∈ front ++ writeWord :: back, d.head? ≠ some '-' := by
  intro d hd
  have member : d = writeWord ∨ d ∈ front ++ back := by
    simpa [or_left_comm] using hd
  rcases member with rfl | hm
  · decide
  · exact plain d hm

/-- Behind a `write` in last place no `storyboard` is looked for. -/
theorem parse_concat_writeWord (plain : ∀ d ∈ ds, d.head? ≠ some '-') (other : writeWord ∉ ds) :
    parse (ds ++ [writeWord]) = .ok ⟨ds, false, true⟩ := by
  have behind : (ds ++ [writeWord]).getLast? ≠ some storyboardWord := by
    rw [List.getLast?_concat]
    decide
  have inserted := plain_insert ds [] (by simpa using plain)
  rw [parse_of_plain inserted, takeStoryboardWord_of_ne behind, takeWriteWord_append other,
    List.append_nil]

/-- A bare `write` means the same as the switch wherever it stands, but for one place: behind a
`storyboard` at the end, which is in last place no more and stays a directory. -/
theorem parse_writeWord (ds : List Text) (i : Nat) (plain : ∀ d ∈ ds, d.head? ≠ some '-')
    (other : writeWord ∉ ds) (within : i ≤ ds.length) :
    parse (Switch.write.long :: ds) = .ok (Invocation.mk ds false true).takeStoryboardWord ∧
    parse (ds.insertIdx i writeWord) =
      if i = ds.length ∧ ds.getLast? = some storyboardWord then .ok ⟨ds, false, true⟩
      else parse (Switch.write.long :: ds) := by
  have switched := parse_writeSwitch plain other
  refine ⟨switched, ?_⟩
  split
  next barred =>
    rw [barred.1, List.insertIdx_length_self]
    exact parse_concat_writeWord plain other
  next last =>
    obtain ⟨front, back, rfl, rfl⟩ : ∃ front back, ds = front ++ back ∧ i = front.length :=
      ⟨ds.take i, ds.drop i, (List.take_append_drop i ds).symm, by simp [within]⟩
    have unwritten : writeWord ∉ front := fun h => other (List.mem_append_left back h)
    have unbarred : back = [] → front.getLast? ≠ some storyboardWord := by
      rintro rfl ends
      exact last (by simpa using ends)
    rw [insertIdx_length_append, parse_of_plain (plain_insert front back plain), switched,
      takeWords_append unwritten unbarred]

/-- The word behind a `storyboard` at the end, and before it. -/
theorem parse_writeWord_storyboard :
    parse ["App".toList, storyboardWord, writeWord] =
      .ok ⟨["App".toList, storyboardWord], false, true⟩ ∧
    parse ["App".toList, writeWord, storyboardWord] = .ok ⟨["App".toList], true, true⟩ := by
  have plain : ∀ d ∈ ["App".toList, storyboardWord], d.head? ≠ some '-' := by decide
  have other : writeWord ∉ ["App".toList, storyboardWord] := by decide
  obtain ⟨-, behind⟩ := parse_writeWord _ 2 plain other (by decide)
  obtain ⟨switched, before⟩ := parse_writeWord _ 1 plain other (by decide)
  exact ⟨behind, before.trans switched⟩

/-- The two spellings differ where the word takes the last place from a `storyboard`. -/
theorem writeWord_bars_storyboardWord :
    (∀ d ∈ ["App".toList, storyboardWord], d.head? ≠ some '-') ∧
    writeWord ∉ ["App".toList, storyboardWord] ∧ 2 ≤ ["App".toList, storyboardWord].length ∧
    parse (["App".toList, storyboardWord].insertIdx 2 writeWord) ≠
      parse (Switch.write.long :: ["App".toList, storyboardWord]) := by
  refine ⟨by decide, by decide, by decide, ?_⟩
  have plain : ∀ d ∈ ["App".toList, storyboardWord], d.head? ≠ some '-' := by decide
  have other : writeWord ∉ ["App".toList, storyboardWord] := by decide
  have behind : parse (["App".toList, storyboardWord].insertIdx 2 writeWord) =
      .ok ⟨["App".toList, storyboardWord], false, true⟩ := parse_concat_writeWord plain other
  have switched : parse (Switch.write.long :: ["App".toList, storyboardWord]) =
      .ok ⟨["App".toList], true, true⟩ := parse_writeSwitch plain other
  rw [behind, switched]
  intro same
  exact absurd (congrArg Invocation.storyboard (Except.ok.inj same)) (by decide)

end Invocation

end StringsAudit.CommandLine

import Mathlib.Data.List.Forall2
import Mathlib.Data.List.Permutation
import Mathlib.Data.List.ReduceOption
import StringsAudit.EnvFile
import StringsAudit.Proofs.Encoding.Utf8
import StringsAudit.Proofs.Stripping

/-!
# Assignments of environment files

What a line of an environment file assigns is told by its form alone, and an environment file is
applied one assignment after the other. So a loaded file gives every name the value that it was
last assigned. The first assignment that the environment refuses ends the loading, behind all the
assignments before it and before all those behind it.
-/

set_option autoImplicit false

namespace StringsAudit

namespace EnvFile

open Text

variable {line : Text} {entry : Option (Text × Text)}

inductive Says : Text → Option (Text × Text) → Prop
  | assignment {before after name value : Text} (plain : '=' ∉ before)
      (named : Padded name before) (valued : Padded value after)
      (starts : name.head? ≠ some '#') : Says (before ++ '=' :: after) (some (name, value))
  | comment {blanks rest : Text} (blank : ∀ c ∈ blanks, isBlank c = true) :
      Says (blanks ++ '#' :: rest) none
  | bare {line : Text} (plain : '=' ∉ line) : Says line none

theorem assignment?_eq_of_strip (line : Text) :
    assignment? line =
      if (strip isBlank line).head? = some '#' then none
      else (cutAt '=' (strip isBlank line)).map fun cut =>
        (strip isBlank cut.1, strip isBlank cut.2) := by
  rw [assignment?]
  split
  next hs =>
    rw [hs]
    rfl
  next rest hs => rw [hs, List.head?_cons, if_pos rfl]
  next hn =>
    rw [if_neg]
    intro opens
    obtain ⟨rest, hs⟩ := List.head?_eq_some_iff.mp opens
    exact hn rest hs

/-- Stripping a text before it is cut changes nothing but the outer ends of the two parts. -/
theorem cutAt_strip (text : Text) :
    (cutAt '=' (strip isBlank text)).map (fun cut => (strip isBlank cut.1, strip isBlank cut.2)) =
      (cutAt '=' text).map fun cut => (strip isBlank cut.1, strip isBlank cut.2) := by
  cases hc : cutAt '=' text with
  | none =>
    have plain : '=' ∉ strip isBlank text :=
      fun hm => cutAt_eq_none_iff.mp hc (mem_of_mem_strip hm)
    rw [cutAt_eq_none_iff.mpr plain]
  | some cut =>
    obtain ⟨before, after⟩ := cut
    obtain ⟨rfl, plain⟩ := cutAt_eq_some_iff.mp hc
    have inner : '=' ∉ stripStart isBlank before :=
      fun hm => plain ((List.dropWhile_sublist isBlank).mem hm)
    obtain ⟨front, start, blankFront⟩ := exists_stripStart_append isBlank before
    have name : strip isBlank (stripStart isBlank before) = strip isBlank before := by
      conv_rhs => rw [start, strip_padding_append blankFront]
    obtain ⟨back, stop, blankBack⟩ := exists_stripEnd_append isBlank after
    have value : strip isBlank (stripEnd isBlank after) = strip isBlank after := by
      conv_rhs => rw [stop, strip_append_padding blankBack]
    rw [strip_append_cons (by decide), cutAt_eq_some_iff.mpr ⟨rfl, inner⟩]
    simp only [Option.map_some, name, value]

theorem assignment?_eq (line : Text) :
    assignment? line =
      if (stripStart isBlank line).head? = some '#' then none
      else (cutAt '=' line).map fun cut => (strip isBlank cut.1, strip isBlank cut.2) := by
  rw [assignment?_eq_of_strip, head?_strip, cutAt_strip]

/-- Each line has a form, and its form leaves no choice of what it says. -/
theorem says_iff : Says line entry ↔ assignment? line = entry := by
  rw [assignment?_eq]
  constructor
  · intro form
    cases form with
    | assignment plain named valued starts =>
      rename_i before after name value
      rw [padded_iff] at named valued
      have opens : (stripStart isBlank (before ++ '=' :: after)).head? ≠ some '#' := by
        rw [← named, head?_strip] at starts
        rw [← head?_strip, strip_append_cons (by decide)]
        cases hs : stripStart isBlank before with
        | nil => simp
        | cons c rest =>
          rw [hs] at starts
          exact starts
      rw [if_neg opens, cutAt_eq_some_iff.mpr ⟨rfl, plain⟩, Option.map_some, named, valued]
    | comment blank =>
      rw [stripStart_padding_append blank, stripStart_of_starts (by simp; decide)]
      rfl
    | bare plain => rw [cutAt_eq_none_iff.mpr plain, Option.map_none, ite_self]
  · rintro rfl
    split
    next comment =>
      obtain ⟨rest, hs⟩ := List.head?_eq_some_iff.mp comment
      obtain ⟨blanks, shape, blank⟩ := exists_stripStart_append isBlank line
      rw [shape, hs]
      exact .comment blank
    next opens =>
      cases hc : cutAt '=' line with
      | none => exact .bare (cutAt_eq_none_iff.mp hc)
      | some cut =>
        obtain ⟨before, after⟩ := cut
        obtain ⟨rfl, plain⟩ := cutAt_eq_some_iff.mp hc
        apply Says.assignment plain (padded_iff.mpr rfl) (padded_iff.mpr rfl)
        rw [← head?_strip, strip_append_cons (by decide)] at opens
        rw [head?_strip]
        intro starts
        obtain ⟨rest, hs⟩ := List.head?_eq_some_iff.mp starts
        exact opens (by rw [hs]; rfl)

inductive LineEnd where
  | feed
  | carriage
  | pair
  deriving DecidableEq, Repr

def LineEnd.text : LineEnd → Text
  | feed => ['\n']
  | carriage => ['\r']
  | pair => ['\r', '\n']

def fileText (ended : List (Text × LineEnd)) (last : Text) : Text :=
  ended.flatMap (fun line => line.1 ++ line.2.text) ++ last

theorem map_feed {line : Text} (single : '\r' ∉ line) :
    line.map (fun c => if c = '\r' then '\n' else c) = line := by
  refine (List.map_congr_left ?_).trans (List.map_id line)
  intro c hc
  have other : c ≠ '\r' := fun he => single (he ▸ hc)
  exact if_neg other

theorem lines_append_cons {line : Text} {c : Char} (feed : '\n' ∉ line) (carriage : '\r' ∉ line)
    (ends : c = '\n' ∨ c = '\r') (rest : Text) :
    lines (line ++ c :: rest) = line :: lines rest := by
  have fed : (if c = '\r' then '\n' else c) = '\n' := by
    rcases ends with rfl | rfl <;> decide
  rw [lines, List.map_append, map_feed carriage, List.map_cons, fed, splitOn_append_sep,
    splitOn_of_not_mem feed]
  rfl

/-- The lines that a file is read as are its lines, but for an empty one within each pair. -/
theorem filterMap_lines_fileText {ended : List (Text × LineEnd)} {last : Text}
    (single : ∀ line ∈ ended.map Prod.fst ++ [last], '\n' ∉ line ∧ '\r' ∉ line) :
    (lines (fileText ended last)).filterMap assignment? =
      (ended.map Prod.fst ++ [last]).filterMap assignment? := by
  induction ended with
  | nil =>
    obtain ⟨feed, carriage⟩ := single last (by simp)
    have shape : fileText [] last = last := rfl
    rw [shape, lines, map_feed carriage, splitOn_of_not_mem feed]
    rfl
  | cons first ended ih =>
    obtain ⟨line, lineEnd⟩ := first
    obtain ⟨⟨feed, carriage⟩, rest⟩ := List.forall_mem_cons.mp single
    have shape : fileText ((line, lineEnd) :: ended) last =
        line ++ (lineEnd.text ++ fileText ended last) := by simp [fileText]
    rw [shape, List.map_cons, List.cons_append, List.filterMap_cons, ← ih rest]
    cases lineEnd with
    | feed => exact congrArg _ (lines_append_cons feed carriage (.inl rfl) _)
    | carriage => exact congrArg _ (lines_append_cons feed carriage (.inr rfl) _)
    | pair =>
      have empty : ∀ c : Char, c ∉ ([] : Text) := fun _ => List.not_mem_nil
      have within := lines_append_cons (empty '\n') (empty '\r') (.inl rfl) (fileText ended last)
      have whole := lines_append_cons feed carriage (.inr rfl) ('\n' :: fileText ended last)
      rw [List.nil_append] at within
      rw [within] at whole
      exact congrArg _ whole

def Accepted (assignment : Text × Text) : Prop :=
  assignment.1 ≠ [] ∧ '\x00' ∉ assignment.1 ∧ '\x00' ∉ assignment.2

instance (assignment : Text × Text) : Decidable (Accepted assignment) :=
  inferInstanceAs (Decidable (_ ∧ _ ∧ _))

def refusal (assignment : Text × Text) : AssignmentFault :=
  if '\x00' ∈ assignment.1 ∨ '\x00' ∈ assignment.2 then .embeddedNul else .emptyName

theorem assign_of_accepted {name value : Text} (accepted : Accepted (name, value))
    (environment : Environment) :
    assign name value environment = .ok (environment.set name value) := by
  obtain ⟨named, noNul, noNulBehind⟩ := accepted
  rw [assign, if_neg (by simp [noNul, noNulBehind]), if_neg named]

theorem assign_of_not_accepted {name value : Text} (refused : ¬ Accepted (name, value))
    (environment : Environment) :
    assign name value environment = .error (refusal (name, value)) := by
  rw [assign, refusal]
  split
  next => rfl
  next noNul =>
    have unnamed : name = [] := by
      simpa [Accepted, not_or.mp noNul] using refused
    rw [if_pos unnamed]

def assignAll (environment : Environment) :
    List (Text × Text) → Environment × Except AssignmentFault Unit
  | [] => (environment, .ok ())
  | (name, value) :: rest =>
    match assign name value environment with
    | .error fault => (environment, .error fault)
    | .ok environment => assignAll environment rest

theorem applyLines_eq_assignAll (environment : Environment) (ls : List Text) :
    applyLines environment ls = assignAll environment (ls.filterMap assignment?) := by
  induction ls generalizing environment with
  | nil => rfl
  | cons line ls ih =>
    rw [applyLines]
    cases ha : assignment? line with
    | none =>
      rw [List.filterMap_cons_none ha]
      exact ih environment
    | some assigned =>
      rw [List.filterMap_cons_some ha, assignAll]
      cases hs : assign assigned.1 assigned.2 environment with
      | error fault => simp only [hs]
      | ok environment => simpa only [hs] using ih environment

end EnvFile

namespace Environment

def setAll (environment : Environment) : List (Text × Text) → Environment
  | [] => environment
  | (name, value) :: rest => setAll (environment.set name value) rest

def lastValue? (name : Text) (assignments : List (Text × Text)) : Option Text :=
  (assignments.filter fun a => a.1 = name).getLast?.map Prod.snd

theorem lastValue?_cons (name : Text) (a : Text × Text) (rest : List (Text × Text)) :
    lastValue? name (a :: rest) =
      (lastValue? name rest).or (if a.1 = name then some a.2 else none) := by
  rw [lastValue?, List.filter_cons]
  split
  next h =>
    rw [← List.singleton_append, List.getLast?_append, Option.map_or, if_pos (by simpa using h)]
    rfl
  next h =>
    rw [if_neg (by simpa using h), Option.or_none]
    rfl

theorem get?_setAll (environment : Environment) (assignments : List (Text × Text)) (name : Text) :
    (environment.setAll assignments).get? name =
      (lastValue? name assignments).or (environment.get? name) := by
  induction assignments generalizing environment with
  | nil => rfl
  | cons a assignments ih =>
    rw [setAll, ih, Table.get?_set, lastValue?_cons, Option.or_assoc]
    congr 1
    by_cases h : a.1 = name
    · rw [if_pos h, if_pos h.symm, Option.some_or]
    · rw [if_neg h, if_neg (Ne.symm h), Option.none_or]

end Environment

namespace EnvFile

/-- Accepted assignments are made, and the loading goes on behind them. -/
theorem assignAll_append {made : List (Text × Text)} (accepted : ∀ a ∈ made, Accepted a)
    (environment : Environment) (more : List (Text × Text)) :
    assignAll environment (made ++ more) = assignAll (environment.setAll made) more := by
  induction made generalizing environment with
  | nil => rfl
  | cons a made ih =>
    obtain ⟨first, rest⟩ := List.forall_mem_cons.mp accepted
    rw [List.cons_append, assignAll, assign_of_accepted first]
    exact ih rest _

theorem assignAll_of_accepted {made : List (Text × Text)} (accepted : ∀ a ∈ made, Accepted a)
    (environment : Environment) :
    assignAll environment made = (environment.setAll made, .ok ()) := by
  have run := assignAll_append accepted environment []
  rwa [List.append_nil] at run

theorem assignAll_of_refused {made : List (Text × Text)} {refused : Text × Text}
    (accepted : ∀ a ∈ made, Accepted a) (refuses : ¬ Accepted refused)
    (environment : Environment) (rest : List (Text × Text)) :
    assignAll environment (made ++ refused :: rest) =
      (environment.setAll made, .error (refusal refused)) := by
  rw [assignAll_append accepted, assignAll, assign_of_not_accepted refuses]

theorem forall₂_says_iff {ls : List Text} {entries : List (Option (Text × Text))} :
    List.Forall₂ Says ls entries ↔ ls.map assignment? = entries := by
  rw [← List.forall₂_eq_eq_eq, List.forall₂_map_left_iff]
  exact ⟨fun forms => forms.imp fun _ _ => says_iff.mp,
    fun read => read.imp fun _ _ => says_iff.mpr⟩

end EnvFile

namespace Workspace

open EnvFile

/-- Loading an environment file makes its assignments in the order of its lines, which may end
each in its own way. Behind it every name has the value that it was assigned last, and every other
name the value that it had. The loading fails at the first assignment that the environment refuses,
when those before it have been made and none of those behind it. -/
theorem loadEnv_assigns (ws : Workspace) (path : Text) (place : Location)
    (ended : List (Text × LineEnd)) (last : Text) (entries : List (Option (Text × Text)))
    (found : ws.find? (if path = [] then EnvFile.defaultPath ws else path) =
      some (place, .file (Encoding.Utf8.encode (fileText ended last))))
    (single : ∀ line ∈ ended.map Prod.fst ++ [last], '\n' ∉ line ∧ '\r' ∉ line)
    (forms : List.Forall₂ Says (ended.map Prod.fst ++ [last]) entries) :
    ((∀ a ∈ entries.reduceOption, Accepted a) →
      ∃ environment, ws.loadEnv path = ({ ws with environment }, .ok true) ∧
        ∀ name, environment.get? name =
          (Environment.lastValue? name entries.reduceOption).or (ws.environment.get? name)) ∧
    ∀ made refused rest, entries.reduceOption = made ++ refused :: rest →
      (∀ a ∈ made, Accepted a) → ¬ Accepted refused →
      ∃ environment,
        ws.loadEnv path = ({ ws with environment }, .error (.assignment (refusal refused))) ∧
        ∀ name, environment.get? name =
          (Environment.lastValue? name made).or (ws.environment.get? name) := by
  have decoded : Encoding.Utf8.decode (Encoding.Utf8.encode (fileText ended last)) =
      .ok (fileText ended last) := Encoding.Utf8.exact.decodeWith_encode _
  have applied : applyLines ws.environment (lines (fileText ended last)) =
      assignAll ws.environment entries.reduceOption := by
    rw [applyLines_eq_assignAll, filterMap_lines_fileText single, ← forall₂_says_iff.mp forms,
      List.reduceOption, List.filterMap_map]
    rfl
  constructor
  · intro accepted
    refine ⟨_, ?_, ws.environment.get?_setAll entries.reduceOption⟩
    rw [assignAll_of_accepted accepted] at applied
    simp only [loadEnv, found, EnvFile.apply, decoded, applied]
  · intro made refused rest shape accepted refuses
    refine ⟨_, ?_, ws.environment.get?_setAll made⟩
    rw [shape, assignAll_of_refused accepted refuses] at applied
    simp only [loadEnv, found, EnvFile.apply, decoded, applied]

def ofEnvText (environment : Environment) (text : Text) : Workspace where
  tree := .directory [(EnvFile.defaultName, .file (Encoding.Utf8.encode text))]
  here := []
  environment

theorem find?_ofEnvText (environment : Environment) (text : Text) :
    (ofEnvText environment text).find? (EnvFile.defaultPath (ofEnvText environment text)) =
      some ([EnvFile.defaultName], .file (Encoding.Utf8.encode text)) := by
  cbv

def mixedLines : List (Text × LineEnd) :=
  [("\t A =1 ".toList, .pair), ("# A=2".toList, .carriage), ([], .feed), ("plain".toList, .feed),
    (" B= x=# ".toList, .carriage)]

def namelessLines : List (Text × LineEnd) := [("A=1".toList, .carriage), (" =2".toList, .feed)]

def ownSettings : Environment := [(['A'], ['0']), (['D'], ['4'])]

theorem loadEnv_assigns_mixed :
    (∃ environment,
      (ofEnvText ownSettings (fileText mixedLines "A=".toList)).loadEnv [] =
        (ofEnvText environment (fileText mixedLines "A=".toList), .ok true) ∧
      environment.get? ['A'] = some [] ∧ environment.get? ['B'] = some "x=#".toList ∧
      environment.get? ['D'] = some ['4'] ∧ environment.get? ['E'] = none) ∧
    ∃ environment,
      (ofEnvText ownSettings (fileText namelessLines "A=3".toList)).loadEnv [] =
        (ofEnvText environment (fileText namelessLines "A=3".toList),
          .error (.assignment .emptyName)) ∧
      environment.get? ['A'] = some ['1'] ∧ environment.get? ['D'] = some ['4'] := by
  have mixed : List.Forall₂ Says (mixedLines.map Prod.fst ++ ["A=".toList])
      [some (['A'], ['1']), none, none, none, some (['B'], "x=#".toList), some (['A'], [])] :=
    forall₂_says_iff.mpr (by decide +kernel)
  have nameless : List.Forall₂ Says (namelessLines.map Prod.fst ++ ["A=3".toList])
      [some (['A'], ['1']), some ([], ['2']), some (['A'], ['3'])] :=
    forall₂_says_iff.mpr (by decide +kernel)
  obtain ⟨loads, -⟩ := loadEnv_assigns _ [] _ _ _ _
    (find?_ofEnvText ownSettings (fileText mixedLines "A=".toList)) (by decide +kernel) mixed
  obtain ⟨-, fails⟩ := loadEnv_assigns _ [] _ _ _ _
    (find?_ofEnvText ownSettings (fileText namelessLines "A=3".toList)) (by decide +kernel) nameless
  constructor
  · obtain ⟨environment, loaded, values⟩ := loads (by decide +kernel)
    exact ⟨environment, loaded, (values _).trans (by decide +kernel),
      (values _).trans (by decide +kernel), (values _).trans (by decide +kernel),
      (values _).trans (by decide +kernel)⟩
  · obtain ⟨environment, loaded, values⟩ :=
      fails [(['A'], ['1'])] ([], ['2']) [(['A'], ['3'])] rfl (by decide +kernel)
        (by decide +kernel)
    exact ⟨environment, loaded, (values _).trans (by decide +kernel),
      (values _).trans (by decide +kernel)⟩

end Workspace

end StringsAudit

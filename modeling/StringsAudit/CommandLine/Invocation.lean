import StringsAudit.CommandLine.Message

/-!
# Invocations

The command line is read twice. The first reading acts on the switches and leaves over the rest;
the second reads what is left over anew, so that a dashed text behind a dropped marker can act as
a switch, and takes the first run of positionals as the directories. Then a bare `storyboard` in
last place and a bare `write` count as switches.

No switch takes a value. The short help switch may be repeated in what is attached to it, with or
without an equals sign, and is refused with anything else there: `-hh` and `-h=h` show the help and
`-hx` is refused. Later releases of argument parsers of this kind decide these the other way round:
they act on the help switch of `-hx` and refuse `-h=h`.
-/

set_option autoImplicit false

namespace StringsAudit.CommandLine

open Text

structure Flags where
  storyboard : Bool
  write : Bool
  deriving DecidableEq, Repr

def Flags.none : Flags := ⟨false, false⟩

abbrev Classed := Text × Kind

def classify : List Text → Except Stop (List Classed)
  | [] => .ok []
  | arg :: rest =>
    match kindOf arg with
    | .ambiguous => .error (.refused (.ambiguous arg))
    | .marker => .ok ((arg, .marker) :: rest.map (·, .positional))
    | kind => (classify rest).map ((arg, kind) :: ·)

def act (spelled : Spelled) (flags : Flags) : Except Stop Flags :=
  match spelled.switch, spelled.value with
  | .help, none => .error .help
  | .storyboard, none => .ok { flags with storyboard := true }
  | .write, none => .ok { flags with write := true }
  | switch, some value =>
    let left := if spelled.short then value.dropWhile (· == 'h') else value
    if left = [] ∧ value ≠ [] ∧ spelled.short then .error .help
    else .error (.refused (.unwantedValue switch left))

def readSwitches (flags : Flags) (positionalSeen : Bool) :
    List Classed → Except Stop (Flags × List Text)
  | [] => .ok (flags, [])
  | (arg, kind) :: rest =>
    match kind with
    | .known spelled => do readSwitches (← act spelled flags) positionalSeen rest
    | .marker =>
      (readSwitches flags positionalSeen rest).map fun (f, left) =>
        (f, if positionalSeen then arg :: left else left)
    | .positional => (readSwitches flags true rest).map fun (f, left) => (f, arg :: left)
    | _ => (readSwitches flags positionalSeen rest).map fun (f, left) => (f, arg :: left)

inductive Phase where
  | before
  | within
  | after
  deriving DecidableEq, Repr

namespace Phase

def interrupted : Phase → Phase
  | before => before
  | _ => after

end Phase

structure Found where
  flags : Flags
  directories : List Text
  unrecognized : List Text
  deriving DecidableEq, Repr

def readDirectories (flags : Flags) (phase : Phase) : List Classed → Except Stop Found
  | [] => .ok ⟨flags, [], []⟩
  | (arg, kind) :: rest =>
    match kind with
    | .known spelled => do readDirectories (← act spelled flags) phase.interrupted rest
    | .positional | .marker =>
      if phase = .after then
        (readDirectories flags phase rest).map fun f =>
          { f with unrecognized := arg :: f.unrecognized }
      else
        (readDirectories flags .within rest).map fun f =>
          { f with directories := arg :: f.directories }
    | _ =>
      (readDirectories flags phase.interrupted rest).map fun f =>
        { f with unrecognized := arg :: f.unrecognized }

def readArguments (args : List Text) : Except Stop (Flags × List Text) := do
  let (flags, left) ← readSwitches .none false (← classify args)
  let found ← readDirectories flags .before (← classify left)
  if found.unrecognized = [] then return (found.flags, found.directories.erase ['-', '-'])
  else throw (.refused (.unrecognized found.unrecognized))

structure Invocation where
  directories : List Text
  storyboard : Bool
  write : Bool
  deriving DecidableEq, Repr

def storyboardWord : Text := "storyboard".toList

def writeWord : Text := "write".toList

namespace Invocation

def takeStoryboardWord (i : Invocation) : Invocation :=
  if i.directories.getLast? = some storyboardWord then
    { i with directories := i.directories.dropLast, storyboard := true }
  else i

def takeWriteWord (i : Invocation) : Invocation :=
  if writeWord ∈ i.directories then
    { i with directories := i.directories.erase writeWord, write := true }
  else i

def parse (args : List Text) : Except Stop Invocation :=
  (readArguments args).map fun (flags, directories) =>
    (Invocation.mk directories flags.storyboard flags.write).takeStoryboardWord.takeWriteWord

end Invocation

end StringsAudit.CommandLine

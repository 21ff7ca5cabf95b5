import StringsAudit.Text.Basic
import StringsAudit.Text.Digit

/-!
# Arguments

Each argument of the command line is a switch, an unknown switch, a positional, or the marker
behind which everything is positional. A long switch may be cut short as long as it stays the
only one that begins so. Dashed texts that are numbers or hold a blank are positionals.
-/

set_option autoImplicit false

namespace StringsAudit.CommandLine

open Text

inductive Switch where
  | help
  | storyboard
  | write
  deriving DecidableEq, Repr

namespace Switch

def all : List Switch := [help, storyboard, write]

def long : Switch → Text
  | help => "--help".toList
  | storyboard => "--storyboard".toList
  | write => "--write".toList

def shown : Switch → Text
  | help => "-h/--help".toList
  | storyboard => "--storyboard".toList
  | write => "--write".toList

end Switch

structure Spelled where
  switch : Switch
  short : Bool
  value : Option Text
  deriving DecidableEq, Repr

inductive Kind where
  | positional
  | marker
  | known (spelled : Spelled)
  | unknown
  | ambiguous
  deriving DecidableEq, Repr

def named? (name : Text) : Option (Switch × Bool) :=
  if name = ['-', 'h'] then some (.help, true)
  else (Switch.all.find? fun s => decide (s.long = name)).map (·, false)

def namedWithValue? (arg : Text) : Option Spelled :=
  match cutAt '=' arg with
  | none => none
  | some (name, value) => (named? name).map fun s => ⟨s.1, s.2, some value⟩

def stemAndValue (arg : Text) : Text × Option Text :=
  match cutAt '=' arg with
  | none => (arg, none)
  | some (stem, value) => (stem, some value)

def abbreviated (arg : Text) : List Switch :=
  if ['-', '-'].isPrefixOf arg then
    Switch.all.filter fun s => (stemAndValue arg).1.isPrefixOf s.long
  else []

def dropFinalNewline (text : Text) : Text :=
  if text.getLast? = some '\n' then text.dropLast else text

def isDigits (text : Text) : Bool := text ≠ [] && text.all isDigit

def isNegativeNumber : Text → Bool
  | '-' :: rest =>
    let body := dropFinalNewline rest
    isDigits body ||
      match cutAt '.' body with
      | none => false
      | some (whole, fraction) => whole.all isDigit && isDigits fraction
  | _ => false

def unnamedKind (arg : Text) : Kind :=
  match arg with
  | '-' :: 'h' :: value => .known ⟨.help, true, some value⟩
  | _ => if isNegativeNumber arg || arg.contains ' ' then .positional else .unknown

def dashedKind (arg : Text) : Kind :=
  match named? arg, namedWithValue? arg with
  | some s, _ => .known ⟨s.1, s.2, none⟩
  | none, some spelled => .known spelled
  | none, none =>
    match abbreviated arg with
    | [s] => .known ⟨s, false, (stemAndValue arg).2⟩
    | _ :: _ :: _ => .ambiguous
    | [] => unnamedKind arg

def kindOf (arg : Text) : Kind :=
  match arg with
  | [] | ['-'] => .positional
  | ['-', '-'] => .marker
  | '-' :: _ => dashedKind arg
  | _ => .positional

end StringsAudit.CommandLine

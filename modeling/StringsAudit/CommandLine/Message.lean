import StringsAudit.CommandLine.Argument
import StringsAudit.Text.Quoted

/-!
# Command-line messages

A command line is refused for one of three reasons. The refusal follows the usage line; the help
text describes the whole command line.
-/

set_option autoImplicit false

namespace StringsAudit.CommandLine

open Text

inductive Problem where
  | ambiguous (arg : Text)
  | unwantedValue (switch : Switch) (value : Text)
  | unrecognized (args : List Text)
  deriving DecidableEq, Repr

inductive Stop where
  | help
  | refused (problem : Problem)
  deriving DecidableEq, Repr

def usageLine : Text :=
  "usage: abandoned-strings [-h] [--storyboard] [--write] [directories ...]\n".toList

def helpText : Text :=
  usageLine ++ "
Find abandoned localization strings

positional arguments:
  directories   Root directories to search (append 'storyboard' to include
                storyboards, 'write' for write mode)

options:
  -h, --help    show this help message and exit
  --storyboard  Also search .storyboard files for \"@key\" usages
  --write       Write results back to the .strings files (not implemented)
".toList

namespace Problem

def message : Problem → Text
  | ambiguous arg =>
    "ambiguous option: ".toList ++ arg ++ " could match --help, --storyboard, --write".toList
  | unwantedValue switch value =>
    "argument ".toList ++ switch.shown ++ ": ignored explicit argument ".toList ++ quoted value
  | unrecognized args => "unrecognized arguments: ".toList ++ joinWith ' ' args

end Problem

namespace Stop

def status : Stop → Nat
  | help => 0
  | refused _ => 2

def output : Stop → Text
  | help => helpText
  | refused _ => []

def errorOutput : Stop → Text
  | help => []
  | refused problem =>
    usageLine ++ "abandoned-strings: error: ".toList ++ problem.message ++ ['\n']

end Stop

end StringsAudit.CommandLine

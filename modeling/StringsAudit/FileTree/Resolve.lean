import StringsAudit.Encoding.Utf8
import StringsAudit.FileTree.Basic
import StringsAudit.Text.Quoted

/-!
# Paths

A path is resolved name by name: blank names and single dots stay, double dots go up, and a link
is replaced by its target, at most forty times. Each way to fail is a fault of its own. A path
that is opened for writing may end in a name that is not there yet.
-/

set_option autoImplicit false

namespace StringsAudit

inductive PathFault where
  | embeddedNul
  | missing
  | notDirectory
  | isDirectory
  | nameTooLong
  | linkLoop
  deriving DecidableEq, Repr

namespace PathFault

def systemError? : PathFault → Option (Nat × Text)
  | embeddedNul => none
  | missing => some (2, "No such file or directory".toList)
  | notDirectory => some (20, "Not a directory".toList)
  | isDirectory => some (21, "Is a directory".toList)
  | nameTooLong => some (36, "File name too long".toList)
  | linkLoop => some (40, "Too many levels of symbolic links".toList)

def message (path : Text) (fault : PathFault) : Text :=
  match fault.systemError? with
  | none => "embedded null byte".toList
  | some (number, words) =>
    "[Errno ".toList ++ Nat.toDigits 10 number ++ "] ".toList ++ words ++ ": ".toList
      ++ Text.quoted path

end PathFault

namespace Path

def components (path : Text) : List Text := Text.splitOn '/' path

def start (here : Location) (path : Text) : Location :=
  if path.head? = some '/' then [] else here

def join (directory name : Text) : Text :=
  if directory.getLast? = some '/' then directory ++ name else directory ++ '/' :: name

def linkLimit : Nat := 40

def nameLimit : Nat := 255

def lengthLimit : Nat := 4095

def isTooLong (path : Text) : Bool := lengthLimit < Encoding.Utf8.size path

def isTrailing (names : List Text) : Bool := names ≠ [] && names.all (· = [])

/-- The place that the names lead to from a directory. With `create` the last name may be new,
but no slash may follow it. -/
def resolve (root : Node) (create : Bool) (budget : Nat) (here : Location) :
    List Text → Except PathFault Location
  | [] => .ok here
  | name :: rest =>
    match root.at? here with
    | some (.directory entries) =>
      if name = [] ∨ name = ['.'] then resolve root create budget here rest
      else if name = ['.', '.'] then resolve root create budget here.dropLast rest
      else if create && isTrailing rest then .error .isDirectory
      else if nameLimit < Encoding.Utf8.size name then .error .nameTooLong
      else
        match Table.get? name entries with
        | none => if create && rest.isEmpty then .ok (here ++ [name]) else .error .missing
        | some (.link target) =>
          match budget with
          | 0 => .error .linkLoop
          | left + 1 =>
            resolve root create left (start here target) (components target ++ rest)
        | some _ => resolve root create budget (here ++ [name]) rest
    | _ => .error .notDirectory
  termination_by names => (budget, names.length)

def locate (root : Node) (create : Bool) (here : Location) (path : Text) :
    Except PathFault Location :=
  if '\x00' ∈ path then .error .embeddedNul
  else if path = [] then .error .missing
  else if isTooLong path then .error .nameTooLong
  else resolve root create linkLimit (start here path) (components path)

end Path

namespace Node

def find? (root : Node) (here : Location) (path : Text) : Option (Location × Node) :=
  match Path.locate root false here path with
  | .error _ => none
  | .ok place => (root.at? place).map (place, ·)

def read (root : Node) (here : Location) (path : Text) : Except PathFault Bytes :=
  match Path.locate root false here path with
  | .error fault => .error fault
  | .ok place =>
    match root.at? place with
    | some (.file content) => .ok content
    | some (.directory _) => .error .isDirectory
    | _ => .error .missing

def append (root : Node) (here : Location) (path : Text) (bytes : Bytes) :
    Except PathFault Node :=
  match Path.locate root true here path with
  | .error fault => .error fault
  | .ok place =>
    match root.at? place with
    | some (.directory _) => .error .isDirectory
    | some (.file content) => .ok (put (.file (content ++ bytes)) root place)
    | _ => .ok (put (.file bytes) root place)

end Node

end StringsAudit

import StringsAudit.FileTree.Resolve
import StringsAudit.Text.Case

/-!
# Walking a tree

A walk lists the files below a directory that have a wanted extension: the directory's own files
first, then those of its subdirectories, both in the order of their names. A link to a directory
counts as a subdirectory that is not entered, any other link as a file, also one whose path holds
too many links or is too long to be resolved. Subdirectories named `.git` are left out. Nothing but
the length of paths bounds how deep a walk goes.
-/

set_option autoImplicit false

namespace StringsAudit

namespace Path

def suffix (name : Text) : Text :=
  let extension := (name.reverse.takeWhile (· ≠ '.')).reverse
  let stem := name.take (name.length - extension.length - 1)
  if extension = [] ∨ stem = [] then [] else '.' :: extension

def normalExtension (extension : Text) : Text :=
  (Text.lower extension).dropWhile (· == '.')

def isWanted (extensions : List Text) (name : Text) : Bool :=
  (extensions.map normalExtension).contains (normalExtension (suffix name))

end Path

namespace Node

def excludedName : Text := ".git".toList

def countsAsDirectory (root : Node) (here : Location) (path : Text) : Node → Bool
  | file _ => false
  | directory _ => true
  | link _ => (root.find? here path).any fun found => found.2.isDirectory

def ownFiles (root : Node) (here : Location) (wanted : Text → Bool) (path : Text)
    (entries : List (Text × Node)) : List Text :=
  Text.sort ((entries.filter fun entry =>
    !countsAsDirectory root here (Path.join path entry.1) entry.2 && wanted entry.1).map Prod.fst)

mutual
def walk (root : Node) (here : Location) (wanted : Text → Bool) (path : Text) :
    Node → List Text
  | directory entries =>
    if Path.isTooLong path then []
    else
      (ownFiles root here wanted path entries).map (Path.join path) ++
        ((walkEntries root here wanted path entries).mergeSort
          fun a b => decide (a.1 ≤ b.1)).flatMap Prod.snd
  | file _ | link _ => []
  termination_by structural node => node

def walkEntries (root : Node) (here : Location) (wanted : Text → Bool) (path : Text) :
    List (Text × Node) → List (Text × List Text)
  | [] => []
  | (name, node) :: rest =>
    if name = excludedName then walkEntries root here wanted path rest
    else
      (name, walk root here wanted (Path.join path name) node) ::
        walkEntries root here wanted path rest
  termination_by structural entries => entries
end

end Node

end StringsAudit

import StringsAudit.Encoding.Fault
import StringsAudit.Table

/-!
# File trees

A node is a file, a symbolic link or a directory of named nodes. A location is the list of names
that lead to a node from the root, through directories alone.

Names and the targets of links are texts. A name whose bytes are no UTF-8 text has no place in a
tree: a run could find and open such a file, but fails with a fault of its own where it has to write
the name, as into the summary. Nor are there permissions: what is in a tree can be entered, opened
and written.
-/

set_option autoImplicit false

namespace StringsAudit

inductive Node where
  | file (content : Bytes)
  | link (target : Text)
  | directory (entries : List (Text × Node))

abbrev Location := List Text

namespace Node

def isDirectory : Node → Bool
  | directory _ => true
  | _ => false

def entries : Node → Table Node
  | directory entries => entries
  | _ => []

def at? (node : Node) : Location → Option Node
  | [] => some node
  | name :: rest =>
    match node.entries.get? name with
    | some child => child.at? rest
    | none => none

def put (new : Node) (node : Node) : Location → Node
  | [] => new
  | name :: rest =>
    let child := (node.entries.get? name).getD (directory [])
    directory (node.entries.set name (put new child rest))

def remove (node : Node) : Location → Node
  | [] => node
  | [name] => directory (node.entries.erase name)
  | name :: rest =>
    match node.entries.get? name with
    | some child => directory (node.entries.set name (child.remove rest))
    | none => node

theorem at?_nil (node : Node) : node.at? [] = some node := by
  cases node <;> rfl

theorem at?_append (node : Node) (a b : Location) :
    node.at? (a ++ b) = (node.at? a).bind fun n => n.at? b := by
  induction a generalizing node with
  | nil => simp [at?_nil]
  | cons name a ih =>
    rw [List.cons_append, at?, at?]
    split <;> simp [ih]

theorem at?_put (new node : Node) (place : Location) : (put new node place).at? place = some new := by
  induction place generalizing node with
  | nil => exact at?_nil new
  | cons name rest ih =>
    rw [put, at?, entries, Table.get?_set]
    simp [ih]

end Node

end StringsAudit

import StringsAudit.Environment
import StringsAudit.FileTree.Resolve

/-!
# Workspaces

What a run can see and change: the file tree, the directory in which the run takes place and the
environment variables.
-/

set_option autoImplicit false

namespace StringsAudit

structure Workspace where
  tree : Node
  here : Location
  environment : Environment

namespace Path

def enter (place : Location) (name : Text) : Location :=
  if name = [] ∨ name = ['.'] then place
  else if name = ['.', '.'] then place.dropLast
  else place ++ [name]

def lexical (here : Location) (path : Text) : Location :=
  (components path).foldl enter (start here path)

end Path

namespace Workspace

def directory (ws : Workspace) : Text := '/' :: Text.joinWith '/' ws.here

def find? (ws : Workspace) (path : Text) : Option (Location × Node) := ws.tree.find? ws.here path

def mount (ws : Workspace) (path : Text) (node : Node) : Workspace :=
  { ws with tree := .put node ws.tree (Path.lexical ws.here path) }

end Workspace

end StringsAudit

import StringsAudit.Diagnostic
import StringsAudit.Encoding.Form
import StringsAudit.FileTree.Walk
import StringsAudit.Workspace

/-!
# Source files

Which files of a workspace are searched, and their texts. A file that cannot be opened or decoded
is a read failure, told by its path and its cause. The texts of several files are joined by line
ends into one source.
-/

set_option autoImplicit false

namespace StringsAudit

inductive ReadCause where
  | access (fault : PathFault)
  | decoding (fault : Encoding.Fault)
  deriving DecidableEq, Repr

structure ReadFailure where
  path : Text
  cause : ReadCause
  deriving DecidableEq, Repr

namespace ReadFailure

def reason (failure : ReadFailure) : Text :=
  match failure.cause with
  | .access fault => fault.message failure.path
  | .decoding fault => fault.message

end ReadFailure

def sourceExtensions (storyboard : Bool) : List Text :=
  ["h".toList, "m".toList, "swift".toList] ++ if storyboard then ["storyboard".toList] else []

def stringsExtension : Text := "strings".toList

namespace Workspace

def directory? (ws : Workspace) (path : Text) : Option Node :=
  ((ws.find? path).map Prod.snd).filter Node.isDirectory

def filesBelow (ws : Workspace) (extensions : List Text) (path : Text) : List Text :=
  match ws.directory? path with
  | none => []
  | some directory => Node.walk ws.tree ws.here (Path.isWanted extensions) path directory

def findFiles (ws : Workspace) (extensions directories : List Text) : List Text :=
  directories.flatMap (ws.filesBelow extensions)

def searchLog (ws : Workspace) (directories : List Text) : Log :=
  (directories.filter fun path => (ws.directory? path).isNone).map .noDirectory

def readText (ws : Workspace) (path : Text) : Except ReadFailure Text :=
  match ws.tree.read ws.here path with
  | .error fault => .error ⟨path, .access fault⟩
  | .ok bytes =>
    match Encoding.decodeText bytes with
    | .error fault => .error ⟨path, .decoding fault⟩
    | .ok text => .ok text

def readTexts (ws : Workspace) : List Text → Except ReadFailure (List Text)
  | [] => .ok []
  | path :: rest =>
    match ws.readText path with
    | .error failure => .error failure
    | .ok text => (ws.readTexts rest).map (text :: ·)

def source (ws : Workspace) (directories : List Text) (storyboard : Bool) :
    Except ReadFailure Text :=
  (ws.readTexts (ws.findFiles (sourceExtensions storyboard) directories)).map
    (Text.joinWith '\n')

end Workspace

end StringsAudit

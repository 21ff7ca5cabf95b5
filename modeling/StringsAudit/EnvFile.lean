import StringsAudit.Text.Blank
import StringsAudit.Workspace

/-!
# Environment files

A line of an environment file assigns a value to a name, or says nothing: blank lines, comments
and lines without an equals sign. Assignments are made in file order, up to the first that the
environment refuses. The file is read in pieces and each piece's complete lines are applied before
the next one is read, so a byte that cannot be decoded is noticed only when its piece is read, and
a character that the file cuts short only at the end.
-/

set_option autoImplicit false

namespace StringsAudit

namespace EnvFile

open Text

inductive AssignmentFault where
  | emptyName
  | embeddedNul
  deriving DecidableEq, Repr

inductive Fault where
  | access (path : Text) (fault : PathFault)
  | decoding (fault : Encoding.Fault)
  | assignment (fault : AssignmentFault)
  deriving DecidableEq, Repr

def AssignmentFault.message : AssignmentFault → Text
  | emptyName => "[Errno 22] Invalid argument".toList
  | embeddedNul => "embedded null byte".toList

def Fault.message : Fault → Text
  | access path fault => fault.message path
  | decoding fault => fault.message
  | assignment fault => fault.message

def assignment? (line : Text) : Option (Text × Text) :=
  match strip isBlank line with
  | [] | '#' :: _ => none
  | stripped => (cutAt '=' stripped).map fun cut => (strip isBlank cut.1, strip isBlank cut.2)

def assign (name value : Text) (environment : Environment) :
    Except AssignmentFault Environment :=
  if '\x00' ∈ name ∨ '\x00' ∈ value then .error .embeddedNul
  else if name = [] then .error .emptyName
  else .ok (environment.set name value)

def applyLines (environment : Environment) : List Text → Environment × Except AssignmentFault Unit
  | [] => (environment, .ok ())
  | line :: rest =>
    match assignment? line with
    | none => applyLines environment rest
    | some (name, value) =>
      match assign name value environment with
      | .error fault => (environment, .error fault)
      | .ok environment => applyLines environment rest

def lines (text : Text) : List Text :=
  splitOn '\n' (text.map fun c => if c = '\r' then '\n' else c)

def completeLines (text : Text) : List Text :=
  (lines (if text.getLast? = some '\r' then text.dropLast else text)).dropLast

def pieceSize : Nat := 8192

def pieces : Bytes → List Bytes
  | [] => []
  | b :: rest => (b :: rest.take (pieceSize - 1)) :: pieces (rest.drop (pieceSize - 1))
  termination_by bytes => bytes.length
  decreasing_by
    simp only [List.length_drop, List.length_cons]
    omega

/-- Reads an undecodable file piece by piece: the text before the piece with the fault, and the
fault, placed within that piece and the bytes left over before it. -/
def readToFault (whole : Encoding.Fault) (left : Bytes) : List Bytes → Text × Encoding.Fault
  | [] =>
    match Encoding.Utf8.decode left with
    | .error fault => ([], fault)
    | .ok text => (text, whole)
  | piece :: rest =>
    match Encoding.Utf8.decodePart (left ++ piece) with
    | .error fault => ([], fault)
    | .ok (text, left) =>
      let (more, fault) := readToFault whole left rest
      (text ++ more, fault)

def applyUndecodable (environment : Environment) (bytes : Bytes) (whole : Encoding.Fault) :
    Environment × Except Fault Unit :=
  let (text, fault) := readToFault whole [] (pieces bytes)
  match applyLines environment (completeLines text) with
  | (environment, .ok ()) => (environment, .error (.decoding fault))
  | (environment, .error refused) => (environment, .error (.assignment refused))

def apply (environment : Environment) (bytes : Bytes) : Environment × Except Fault Unit :=
  match Encoding.Utf8.decode bytes with
  | .error whole => applyUndecodable environment bytes whole
  | .ok text =>
    match applyLines environment (lines text) with
    | (environment, .ok ()) => (environment, .ok ())
    | (environment, .error refused) => (environment, .error (.assignment refused))

def defaultName : Text := ".env".toList

def defaultPath (ws : Workspace) : Text := Path.join ws.directory defaultName

end EnvFile

namespace Workspace

def loadEnv (ws : Workspace) (path : Text) : Workspace × Except EnvFile.Fault Bool :=
  let named := if path = [] then EnvFile.defaultPath ws else path
  match ws.find? named with
  | none => (ws, .ok false)
  | some (_, .file bytes) =>
    match EnvFile.apply ws.environment bytes with
    | (environment, .ok ()) => ({ ws with environment }, .ok true)
    | (environment, .error fault) => ({ ws with environment }, .error fault)
  | some _ => (ws, .error (.access named .isDirectory))

end Workspace

end StringsAudit

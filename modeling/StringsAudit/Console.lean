import StringsAudit.Diagnostic

/-!
# Consoles

A diagnostic goes to the diagnostic stream as one block: a mark, and its message as a console lays
it out. A run does not depend on the console, which is given from outside. The plain console leaves
out characters that would move the cursor and fills tabs with blanks; what other consoles do, such
as to show a sign in place of its name, is not laid down here.
-/

set_option autoImplicit false

namespace StringsAudit

structure Console where
  layOut : Text → Text

namespace Console

def block (console : Console) (level : Level) (message : Text) : Text :=
  level.mark ++ console.layOut message ++ ['\n']

def tell (console : Console) (d : Diagnostic) : Text := console.block d.level d.message

-- bell, backspace, vertical tab, form feed and carriage return
def isSuppressed (c : Char) : Bool :=
  ['\x07', '\x08', '\x0b', '\x0c', '\x0d'].contains c

-- control characters take no room
def columns (c : Char) : Nat := if c.toNat < 0x20 ∨ (0x7F ≤ c.toNat ∧ c.toNat < 0xA0) then 0 else 1

def expandTabs (column : Nat) : Text → Text
  | [] => []
  | c :: rest =>
    if c = '\t' then
      List.replicate (8 - column % 8) ' ' ++ expandTabs (column + (8 - column % 8)) rest
    else if c = '\n' then c :: expandTabs 0 rest
    else c :: expandTabs (column + columns c) rest

def plain : Console := ⟨fun message => expandTabs 0 (message.filter fun c => !isSuppressed c)⟩

end Console

def renderMessage (level : Level) (message : Text) : Text := Console.plain.block level message

end StringsAudit

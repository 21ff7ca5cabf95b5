import StringsAudit.Text.Blank
import StringsAudit.Text.Basic
import StringsAudit.Text.Digit

/-!
# Written integers

An integer is written with an optional sign and decimal digits of any script, with single
underscores allowed between digits. Blanks around it do not count. A text with more digits than
the limit is not read, however many of them are leading zeros.
-/

set_option autoImplicit false

namespace StringsAudit.Text

def moreDigits? : Text → Option (List Nat)
  | [] => some []
  | '_' :: c :: rest =>
    match digitValue? c, moreDigits? rest with
    | some d, some ds => some (d :: ds)
    | _, _ => none
  | c :: rest =>
    match digitValue? c, moreDigits? rest with
    | some d, some ds => some (d :: ds)
    | _, _ => none

def digits? : Text → Option (List Nat)
  | [] => none
  | c :: rest =>
    match digitValue? c, moreDigits? rest with
    | some d, some ds => some (d :: ds)
    | _, _ => none

def ofDigits (digits : List Nat) : Nat := digits.foldl (fun n d => 10 * n + d) 0

def digitLimit : Nat := 4300

def natural? (text : Text) : Option Nat :=
  match digits? text with
  | none => none
  | some digits => if digitLimit < digits.length then none else some (ofDigits digits)

def integer? (text : Text) : Option Int :=
  match strip isBlank text with
  | '+' :: rest => (natural? rest).map fun n => (n : Int)
  | '-' :: rest => (natural? rest).map fun n => -(n : Int)
  | rest => (natural? rest).map fun n => (n : Int)

end StringsAudit.Text

import StringsAudit.Text.Basic
import StringsAudit.Text.PrintableTable

/-!
# Quoted texts

A message shows a path or an option's value between quotes. Single quotes are used unless the
text holds one and holds no double quote; backslashes, the quote in use, line and tab controls
and all characters without a glyph are escaped.
-/

set_option autoImplicit false

namespace StringsAudit.Text

def quoteFor (text : Text) : Char :=
  if text.contains '\'' && !text.contains '"' then '"' else '\''

def hexDigit (n : Nat) : Char := Nat.digitChar (n % 16)

def hexDigits : Nat → Nat → Text
  | 0, _ => []
  | width + 1, n => hexDigits width (n / 16) ++ [hexDigit n]

def numericEscape (n : Nat) : Text :=
  if n < 0x100 then '\\' :: 'x' :: hexDigits 2 n
  else if n < 0x10000 then '\\' :: 'u' :: hexDigits 4 n
  else '\\' :: 'U' :: hexDigits 8 n

def escapeChar (quote c : Char) : Text :=
  if c = quote ∨ c = '\\' then ['\\', c]
  else if c = '\n' then ['\\', 'n']
  else if c = '\r' then ['\\', 'r']
  else if c = '\t' then ['\\', 't']
  else if isPrintable c then [c]
  else numericEscape c.toNat

def quoted (text : Text) : Text :=
  let quote := quoteFor text
  quote :: text.flatMap (escapeChar quote) ++ [quote]

end StringsAudit.Text

import Muster.Unicode.Display

/-!
# Quoted text

Text between quotation marks, as values are shown in error messages. A quotation mark and a
backslash are preceded by a backslash, the usual controls have their letter, and a character that
does not show itself is written by its code point in braces.
-/

namespace Muster.Text

/-- A number in lowercase hexadecimal digits. -/
def hexadecimal (n : Nat) : List Char := Nat.toDigits 16 n

/-- How one character is written between quotation marks. -/
def quotedChar (c : Char) : List Char :=
  if c = '\x00' then ['\\', '0']
  else if c = '\t' then ['\\', 't']
  else if c = '\n' then ['\\', 'n']
  else if c = '\r' then ['\\', 'r']
  else if c = '"' then ['\\', '"']
  else if c = '\\' then ['\\', '\\']
  else if Unicode.showsItself c then [c]
  else ['\\', 'u', '{'] ++ hexadecimal c.toNat ++ ['}']

end Muster.Text

namespace Muster

/-- A text between quotation marks. -/
def quoted (s : String) : String :=
  String.ofList ('"' :: s.toList.flatMap Text.quotedChar ++ ['"'])

end Muster

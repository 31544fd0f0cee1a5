import CommandRelay.Text.Digits
import CommandRelay.Text.Hidden

/-!
# Quoted texts

A text in double quotes as it is shown for inspection: quotes and backslashes behind a backslash,
line ends and tabs by their letters, and every other hidden character by its number.
-/

namespace CommandRelay.Text

/-- A character inside a quoted text. -/
def quoteChar (c : Char) : List Char :=
  if c = '\x00' then ['\\', '0']
  else if c = '\t' then ['\\', 't']
  else if c = '\n' then ['\\', 'n']
  else if c = '\r' then ['\\', 'r']
  else if c = '\"' then ['\\', '\"']
  else if c = '\\' then ['\\', '\\']
  else if isHidden c then ['\\', 'u', '\x7b'] ++ hexadecimal c.toNat ++ ['\x7d']
  else [c]

/-- A quoted text. -/
def quote (s : String) : String :=
  String.ofList ('\"' :: s.toList.flatMap quoteChar ++ ['\"'])

end CommandRelay.Text

import Packrat.Text.Hidden

/-!
# Quoted text

`quote` writes a text between double quotes, so that every character of it can be told apart: a
quote or a backslash gets a backslash before it, the common controls have their letters, and a
character that does not show is written by its number.
-/

namespace Packrat.Text

/-- A code point in the form `\u` with lower-case hexadecimal digits between braces, without
leading zeros. -/
def codePoint (c : Char) : List Char :=
  ['\\', 'u', '\x7b'] ++ Nat.toDigits 16 c.toNat ++ ['\x7d']

/-- How one character stands in quoted text. -/
def quoteChar (c : Char) : List Char :=
  if c = '\x00' then ['\\', '0']
  else if c = '\t' then ['\\', 't']
  else if c = '\n' then ['\\', 'n']
  else if c = '\r' then ['\\', 'r']
  else if c = '"' || c = '\\' then ['\\', c]
  else if isHidden c then codePoint c
  else [c]

/-- A text between double quotes, its characters told apart. -/
def quote (text : String) : String :=
  String.ofList (['"'] ++ text.toList.flatMap quoteChar ++ ['"'])

end Packrat.Text

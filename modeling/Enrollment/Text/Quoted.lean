import Enrollment.Unicode.Printable

/-!
# Quoted text

Quoted text shows a string or a character between quotes so that nothing invisible stays invisible.
NUL, tab, line feed, carriage return, the backslash and the quote itself have short escapes; a
combining or hidden character is written by its code point in lowercase hexadecimal digits; every
other character stands for itself. A string is quoted by `"` and does not escape `'`, a character
is quoted by `'` and does not escape `"`.
-/

namespace Enrollment.Text

/-- The code point of a character between braces after a backslash and `u`. -/
def codePointEscape (c : Char) : List Char :=
  ['\\', 'u', '{'] ++ Nat.toDigits 16 c.toNat ++ ['}']

/-- How one character is written inside text that `quote` delimits. -/
def escape (quote c : Char) : List Char :=
  if c = '\x00' then ['\\', '0']
  else if c = '\t' then ['\\', 't']
  else if c = '\r' then ['\\', 'r']
  else if c = '\n' then ['\\', 'n']
  else if c = '\\' then ['\\', '\\']
  else if c = quote then ['\\', quote]
  else if Unicode.isCombining c || Unicode.isHidden c then codePointEscape c
  else [c]

/-- A string between double quotes. -/
def quoted (s : String) : String :=
  String.ofList (['"'] ++ s.toList.flatMap (escape '"') ++ ['"'])

/-- A character between single quotes. -/
def quotedChar (c : Char) : String :=
  String.ofList (['\''] ++ escape '\'' c ++ ['\''])

end Enrollment.Text

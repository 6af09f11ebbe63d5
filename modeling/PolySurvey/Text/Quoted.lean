import PolySurvey.Text.Printable

/-!
# Quoted text

A text is quoted between double quotes. The quote, the backslash, tab, line feed, carriage return and
NUL have escapes of two characters; any other character that is not printable is written by its code
point in hexadecimal digits.
-/

namespace PolySurvey.Text

/-- The text of one character between the quotes. -/
def escape (c : Char) : List Char :=
  if c = '\x00' then ['\\', '0']
  else if c = '\t' then ['\\', 't']
  else if c = '\n' then ['\\', 'n']
  else if c = '\r' then ['\\', 'r']
  else if c = '"' then ['\\', '"']
  else if c = '\\' then ['\\', '\\']
  else if isPrintable c then [c]
  else ['\\', 'u', '\x7b'] ++ Nat.toDigits 16 c.toNat ++ ['\x7d']

/-- The text between double quotes, escaped. -/
def quoted (cs : List Char) : List Char :=
  '"' :: cs.flatMap escape ++ ['"']

end PolySurvey.Text

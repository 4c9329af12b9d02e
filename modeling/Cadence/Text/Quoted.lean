import Cadence.Text.Unprintable

/-!
# Quoted text

Text between double quotes, as the log shows it.  A quote and a backslash get a backslash before
them, the usual controls have their letters, and every other character that is not visible on its
own is written by its code point in hexadecimal.
-/

set_option autoImplicit false

namespace Cadence.Text

/-- How one character is written inside quotes. -/
def escape (c : Char) : List Char :=
  if c = '"' then ['\\', '"']
  else if c = '\\' then ['\\', '\\']
  else if c = '\n' then ['\\', 'n']
  else if c = '\r' then ['\\', 'r']
  else if c = '\t' then ['\\', 't']
  else if c.toNat = 0 then ['\\', '0']
  else if isPrintable c then [c]
  else ['\\', 'u', '\x7b'] ++ Nat.toDigits 16 c.toNat ++ ['\x7d']

def quoted (text : String) : String :=
  String.ofList ('"' :: text.toList.flatMap escape ++ ['"'])

end Cadence.Text

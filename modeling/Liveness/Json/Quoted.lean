import Liveness.Text.Numeral

/-!
# JSON strings

How a text is written as a JSON string: the quote and the backslash are escaped, the
controls below a blank by a letter or by their number, and everything else stands for
itself.
-/

namespace Liveness

namespace Json

/-- A control as four hexadecimal digits after a backslash and `u`. -/
def numbered (n : Nat) : List Char :=
  ['\\', 'u', '0', '0', Numeral.digitChar (n / 16), Numeral.digitChar (n % 16)]

def escape (c : Char) : List Char :=
  if c = '"' then ['\\', '"']
  else if c = '\\' then ['\\', '\\']
  else if c = '\x08' then ['\\', 'b']
  else if c = '\x0c' then ['\\', 'f']
  else if c = '\n' then ['\\', 'n']
  else if c = '\r' then ['\\', 'r']
  else if c = '\t' then ['\\', 't']
  else if c.toNat < 0x20 then numbered c.toNat
  else [c]

def stringChars (cs : List Char) : List Char :=
  '"' :: (cs.flatMap escape ++ ['"'])

end Json

end Liveness

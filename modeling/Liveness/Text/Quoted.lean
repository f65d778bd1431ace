import Liveness.Text.Invisible
import Liveness.Text.Numeral

/-!
# Quoted text

A text between double quotes in which every character that could be taken for something
else is escaped: the quote and the backslash themselves, the common controls by a letter,
and every invisible character by its code point. Nothing in a quoted text ends a line.
-/

namespace Liveness

namespace Quoted

/-- The code point of a character between braces, after a backslash and `u`. -/
def codePoint (c : Char) : List Char :=
  ['\\', 'u', '\x7b'] ++ Numeral.hexChars c.toNat ++ ['\x7d']

/-- How a character is written inside quotes. -/
def escape (c : Char) : List Char :=
  if c = '\x00' then ['\\', '0']
  else if c = '\t' then ['\\', 't']
  else if c = '\r' then ['\\', 'r']
  else if c = '\n' then ['\\', 'n']
  else if c = '"' then ['\\', '"']
  else if c = '\\' then ['\\', '\\']
  else if isInvisible c then codePoint c
  else [c]

def chars (cs : List Char) : List Char :=
  '"' :: (cs.flatMap escape ++ ['"'])

end Quoted

def quote (s : String) : String :=
  String.ofList (Quoted.chars s.toList)

end Liveness

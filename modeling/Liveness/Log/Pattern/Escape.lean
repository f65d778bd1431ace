import Liveness.Log.Pattern.Basic
import Liveness.Text.Blank

/-!
# Escapes in patterns

A backslash takes the meaning from a mark, or gives one to a letter. What would end with a
closing brace cannot be written, since the brace ends the pattern; and classes by property
cannot be made. So escapes of these kinds are refused.
-/

namespace Liveness

namespace Pattern

/-! ## Blanks -/

/-- A text without the blanks and comments in front; a comment goes to the end of its
line. -/
def dropBlanks (inComment : Bool) : List Char → List Char
  | [] => []
  | c :: cs =>
    if inComment then dropBlanks (c ≠ '\n') cs
    else if isBlank c then dropBlanks false cs
    else if c = '#' then dropBlanks true cs
    else c :: cs

/-- Skips what the modes allow to be skipped. -/
def Modes.skip (m : Modes) (cs : List Char) : List Char :=
  if m.spaced then dropBlanks false cs else cs

/-! ## Escapes -/

/-- The marks that have a meaning of their own somewhere in a pattern. -/
def marks : List Char := "\\.+*?()|[]\x7b\x7d^$#&-~".toList

def isAsciiAlphanumeric (c : Char) : Bool :=
  ('a' ≤ c && c ≤ 'z') || ('A' ≤ c && c ≤ 'Z') || ('0' ≤ c && c ≤ '9')

/-- Whether a backslash before the character leaves just the character. -/
def isEscapable (c : Char) : Bool :=
  marks.contains c
    || (isAscii c && !isAsciiAlphanumeric c && c != '<' && c != '>')

/-- What a letter after a backslash stands for. -/
def lettered? (c : Char) : Option Atom :=
  match c with
  | 'a' => some (.literal '\x07' false)
  | 'f' => some (.literal '\x0c' false)
  | 't' => some (.literal '\t' false)
  | 'n' => some (.literal '\n' false)
  | 'r' => some (.literal '\r' false)
  | 'v' => some (.literal '\x0b' false)
  | 'A' => some .anchor
  | 'z' => some .anchor
  | 'b' => some .wordEdge
  | 'B' => some .wordEdge
  | '<' => some .wordEdge
  | '>' => some .wordEdge
  | 'd' => some (.shorthand false)
  | 's' => some (.shorthand false)
  | 'w' => some (.shorthand false)
  | 'D' => some (.shorthand true)
  | 'S' => some (.shorthand true)
  | 'W' => some (.shorthand true)
  | _ => none

/-- The digits of a code point after a letter that asks for one. -/
def codeDigits? (c : Char) : Option Nat :=
  match c with
  | 'x' => some 2
  | 'u' => some 4
  | 'U' => some 8
  | _ => none

def hexDigit? (c : Char) : Option Nat :=
  let n := c.toNat
  if '0' ≤ c ∧ c ≤ '9' then some (n - 48)
  else if 'a' ≤ c ∧ c ≤ 'f' then some (n - 87)
  else if 'A' ≤ c ∧ c ≤ 'F' then some (n - 55)
  else none

/-- Reads so many hexadecimal digits after a value already read. -/
def readCode (m : Modes) : Nat → Nat → List Char → Option (Nat × List Char)
  | 0, value, cs => some (value, cs)
  | _ + 1, _, [] => none
  | n + 1, value, c :: cs =>
    match hexDigit? c with
    | none => none
    | some d => readCode m n (16 * value + d) (m.skip cs)

def readEscape (m : Modes) : List Char → Option (Atom × List Char)
  | [] => none
  | c :: cs =>
    match codeDigits? c with
    | some digits =>
      match readCode m digits 0 (m.skip cs) with
      | none => none
      | some (n, rest) =>
        if n.isValidChar then some (.literal (Char.ofNat n) (digits == 2), rest) else none
    | none =>
      if isEscapable c then some (.literal c false, cs)
      else (lettered? c).map fun atom => (atom, cs)

end Pattern

end Liveness

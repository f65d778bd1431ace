/-!
# What a pattern is made of

A filter may bind a field to a pattern. No value is ever compared with one, so all that
counts is whether the pattern can be made. Patterns are made without knowledge of letter
case, of letters and digits beyond ASCII, and of the edges of words in Unicode; and they
match nothing but whole characters. So what an atom may be depends on the modes in force
where it stands.
-/

namespace Liveness

namespace Pattern

structure Modes where
  /-- whether the case of letters is ignored -/
  anyCase : Bool := false
  /-- whether characters are matched, and not bytes -/
  unicode : Bool := true
  /-- whether blanks in the pattern are skipped, and comments with them -/
  spaced : Bool := false
deriving Repr, DecidableEq

inductive Atom where
  /-- a character; `asByte` says that it is written as a byte, with two digits -/
  | literal (c : Char) (asByte : Bool)
  | anyChar
  /-- a place between characters, such as the beginning -/
  | anchor
  | wordEdge
  /-- a digit, blank or word character, or anything but that -/
  | shorthand (negated : Bool)
deriving Repr, DecidableEq

def isAscii (c : Char) : Bool := c.toNat < 0x80

namespace Modes

/-- Whether an atom can be made outside a class. -/
def admits (m : Modes) : Atom → Bool
  | .literal c asByte => if m.unicode then !m.anyCase else !asByte || isAscii c
  | .anyChar => m.unicode
  | .anchor => true
  | .wordEdge => !m.unicode
  | .shorthand negated => !m.unicode && !negated

/-- Whether an atom can be a member of a class. -/
def admitsMember (m : Modes) : Atom → Bool
  | .literal c _ => if m.unicode then !m.anyCase else isAscii c
  | .shorthand negated => !m.unicode && !negated
  | _ => false

/-- Whether a class with a name can be a member of a class. -/
def admitsNamed (m : Modes) (negated : Bool) : Bool :=
  if m.unicode then !m.anyCase else !negated

/-- Whether a class can be made of members that can be made. -/
def admitsClass (m : Modes) (negated : Bool) : Bool := m.unicode || !negated

end Modes

/-! ## Nesting

The parts of a pattern may be nested so far and no further. An atom has depth zero. -/

def depthLimit : Nat := 250

/-- Parts side by side. -/
structure Row where
  size : Nat := 0
  /-- the greatest depth of a part -/
  depth : Nat := 0
deriving Repr, DecidableEq

namespace Row

def add (r : Row) (depth : Nat) : Row := ⟨r.size + 1, max r.depth depth⟩

/-- The depth of the parts as a whole; a part that stands alone is not nested. -/
def total (r : Row) : Nat := if r.size ≤ 1 then r.depth else r.depth + 1

end Row

end Pattern

end Liveness

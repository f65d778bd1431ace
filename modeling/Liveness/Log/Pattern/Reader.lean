import Liveness.Log.Pattern.Class
import Liveness.Text.Alphanumeric

/-!
# Reading patterns

A pattern is a sequence of parts, or several such sequences between bars. A part is an atom,
a class, or a pattern in parentheses, which may have a name or set modes for itself; a part
may be repeated. Modes that are set between parts hold from there to the end of the
parentheses around them, bars included.
-/

namespace Liveness

namespace Pattern

/-- The parts of a sequence read so far. -/
structure Sequence where
  parts : Row := {}
  /-- the depth of the last part, if it can be repeated -/
  last : Option Nat := none
deriving Repr, DecidableEq

namespace Sequence

def add (s : Sequence) (depth : Nat) : Sequence := ⟨s.parts.add depth, some depth⟩

/-- Adds a setting of modes, which is a part that cannot be repeated. -/
def addSetting (s : Sequence) : Sequence := ⟨s.parts.add 0, none⟩

def repeated (s : Sequence) : Option Sequence :=
  s.last.map fun depth =>
    ⟨{ s.parts with depth := max s.parts.depth (depth + 1) }, some (depth + 1)⟩

end Sequence

/-- Sequences between bars, the last of them still growing. -/
structure Branches where
  /-- the greatest depth of a sequence before the last bar, if there is a bar -/
  before : Option Nat := none
  growing : Sequence := {}
deriving Repr, DecidableEq

namespace Branches

def total (b : Branches) : Nat :=
  let last := b.growing.parts.total
  b.before.elim last fun depth => max depth last + 1

/-- Begins a new sequence after a bar. -/
def bar (b : Branches) : Branches := ⟨some (max (b.before.getD 0) b.growing.parts.total), {}⟩

def grow (b : Branches) (s : Sequence) : Branches := { b with growing := s }

end Branches

structure State where
  modes : Modes := {}
  branches : Branches := {}
  /-- the parentheses that are open, with what holds around them, innermost first -/
  outer : List (Modes × Branches) := []
  /-- the names given to parentheses -/
  names : List String := []

/-! ## Modes -/

def modeLetters : List Char := ['i', 'm', 's', 'U', 'u', 'R', 'x']

/-- Switches the mode with a letter; most modes do not matter for what can be made. -/
def Modes.switch (m : Modes) (letter : Char) (on : Bool) : Modes :=
  match letter with
  | 'i' => { m with anyCase := on }
  | 'u' => { m with unicode := on }
  | 'x' => { m with spaced := on }
  | _ => m

/-- Reads the letters of modes up to a colon or a closing parenthesis. A letter may come
once; a dash may come once, and then a letter has to follow. -/
def readModes (m : Modes) (seen : List Char) : List Char → Option (Modes × List Char × List Char)
  | [] => none
  | c :: cs =>
    if c = ':' ∨ c = ')' then
      if seen.head? = some '-' then none else some (m, seen, c :: cs)
    else if seen.contains c then none
    else if c = '-' then readModes m (c :: seen) cs
    else if modeLetters.contains c then
      readModes (m.switch c (!seen.contains '-')) (c :: seen) cs
    else none

/-! ## Parentheses -/

def isNameChar (first : Bool) (c : Char) : Bool :=
  if first then c == '_' || isAlphabetic c
  else c == '_' || c == '.' || c == '[' || c == ']' || isAlphanumeric c

def isName : List Char → Bool
  | [] => false
  | c :: cs => isNameChar true c && cs.all (isNameChar false)

/-- A text after a word that it begins with. -/
def after? (word : String) (cs : List Char) : Option (List Char) :=
  if word.toList.isPrefixOf cs then some (cs.drop word.length) else none

namespace State

/-- Opens parentheses in which the modes hold. -/
def openWith (s : State) (m : Modes) : State :=
  { s with modes := m, branches := {}, outer := (s.modes, s.branches) :: s.outer }

/-- Reads a name up to its end, and opens the parentheses that have it. -/
def openNamed (s : State) (cs : List Char) : Option (State × List Char) :=
  let name := cs.takeWhile (· ≠ '>')
  match cs.dropWhile (· ≠ '>') with
  | [] => none
  | _ :: rest =>
    if isName name && !s.names.contains (String.ofList name) then
      some ({ s.openWith s.modes with names := String.ofList name :: s.names }, rest)
    else none

/-- Reads modes, which are set for parentheses or up to the end of those around them. -/
def openModes (s : State) (cs : List Char) : Option (State × List Char) :=
  match readModes s.modes [] cs with
  | some (m, _, ':' :: rest) => some (s.openWith m, rest)
  | some (m, seen, _ :: rest) =>
    if seen.isEmpty then none
    else
      some ({ s with modes := m, branches := s.branches.grow s.branches.growing.addSetting }, rest)
  | _ => none

/-- The beginnings of parentheses that would look around. -/
def lookarounds : List String := ["?=", "?!", "?<=", "?<!"]

/-- Reads what follows an opening parenthesis. -/
def openGroup (s : State) (cs : List Char) : Option (State × List Char) :=
  let cs := s.modes.skip cs
  if lookarounds.any fun word => word.toList.isPrefixOf cs then none
  else
    match (after? "?P<" cs).or (after? "?<" cs), after? "?" cs with
    | some rest, _ => s.openNamed rest
    | none, some rest => s.openModes rest
    | none, none => some (s.openWith s.modes, cs)

/-- Closes parentheses, which are a part of what is around them. -/
def closeGroup (s : State) : Option State :=
  match s.outer with
  | [] => none
  | (m, around) :: outer =>
    some { s with
      modes := m
      branches := around.grow (around.growing.add (s.branches.total + 1))
      outer := outer }

/-! ## The whole -/

def addAtom (s : State) (atom : Atom) : Option State :=
  if s.modes.admits atom then
    some { s with branches := s.branches.grow (s.branches.growing.add 0) }
  else none

/-- Reads the next part of a text that is not empty. -/
def readPart (s : State) (c : Char) (cs : List Char) : Option (State × List Char) :=
  match c with
  | '(' => s.openGroup cs
  | ')' => s.closeGroup.map fun s => (s, cs)
  | '|' => some ({ s with branches := s.branches.bar }, cs)
  | '[' =>
    (readClass s.modes cs).map fun (depth, rest) =>
      ({ s with branches := s.branches.grow (s.branches.growing.add depth) }, rest)
  | '\x7b' => none
  | '\\' => do
    let (atom, rest) ← readEscape s.modes cs
    (s.addAtom atom).map fun s => (s, rest)
  | '.' => (s.addAtom .anyChar).map fun s => (s, cs)
  | '^' => (s.addAtom .anchor).map fun s => (s, cs)
  | '$' => (s.addAtom .anchor).map fun s => (s, cs)
  | c =>
    if c = '?' ∨ c = '*' ∨ c = '+' then
      s.branches.growing.repeated.map fun growing =>
        ({ s with branches := s.branches.grow growing },
          match cs with
          | '?' :: rest => rest
          | _ => cs)
    else (s.addAtom (.literal c false)).map fun s => (s, cs)

/-- Reads the rest of a pattern. The fuel bounds the number of characters. -/
def readAll : Nat → State → List Char → Option State
  | 0, _, _ => none
  | fuel + 1, s, cs =>
    match s.modes.skip cs with
    | [] => some s
    | c :: rest =>
      match s.readPart c rest with
      | none => none
      | some (s, rest) => readAll fuel s rest

end State

/-- Whether a pattern can be made. -/
def isSound (cs : List Char) : Bool :=
  match State.readAll (cs.length + 1) {} cs with
  | none => false
  | some s => s.outer.isEmpty && s.branches.total ≤ depthLimit

end Pattern

end Liveness

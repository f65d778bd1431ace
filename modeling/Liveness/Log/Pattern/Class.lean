import Liveness.Log.Pattern.Escape

/-!
# Classes in patterns

A class is a list of members between brackets: characters, ranges, shorthands, classes with
a name, and classes again. Two marks of a kind join what stands on their two sides: the
common members, the difference, or the members of just one side.
-/

namespace Liveness

namespace Pattern

/-- Where a class that is not closed yet was interrupted. -/
inductive Frame where
  /-- by a class among its members -/
  | opened (outer : Row) (negated : Bool)
  /-- by a mark, with something of this depth on the left -/
  | joined (left : Nat)
deriving Repr, DecidableEq

/-- Joins what was read, of the given depth, to what stands on its left. -/
def join (depth : Nat) : List Frame → Nat × List Frame
  | .joined left :: frames => (max left depth + 1, frames)
  | frames => (depth, frames)

/-! ## Members -/

def classNames : List String :=
  ["alnum", "alpha", "ascii", "blank", "cntrl", "digit", "graph", "lower", "print", "punct",
    "space", "upper", "word", "xdigit"]

/-- Reads a class with a name, whose first bracket is read already; says whether it is
negated. -/
def readNamed : List Char → Option (Bool × List Char)
  | ':' :: cs =>
    let (negated, cs) : Bool × List Char :=
      match cs with
      | '^' :: cs => (true, cs)
      | cs => (false, cs)
    let name := String.ofList (cs.takeWhile (· ≠ ':'))
    match cs.dropWhile (· ≠ ':') with
    | ':' :: ']' :: rest => if classNames.contains name then some (negated, rest) else none
    | _ => none
  | _ => none

/-- Reads an atom as the member of a class. -/
def readMember (m : Modes) : List Char → Option (Atom × List Char)
  | [] => none
  | '\\' :: cs => readEscape m cs
  | c :: cs => some (.literal c false, cs)

/-- The first character of a comment: the mark is passed over, and so are blanks. -/
def firstInComment (cs : List Char) : Option Char :=
  (cs.dropWhile fun c => isBlank c).head?

/-- The character that comes after a dash, if blanks are passed over where the modes allow
it. -/
def ahead? (m : Modes) (cs : List Char) : Option Char :=
  if m.spaced then
    match cs.dropWhile fun c => isBlank c with
    | [] => cs.head?
    | '#' :: rest => (firstInComment rest).or cs.head?
    | c :: _ => some c
  else cs.head?

/-- Whether a range ends with this atom after it began with that one. -/
def isRange : Atom → Atom → Bool
  | .literal first _, .literal last _ => first.toNat ≤ last.toNat
  | _, _ => false

/-- Reads a member or a range, and says whether it can be made. -/
def readRange (m : Modes) (cs : List Char) : Option (List Char) := do
  let (first, cs) ← readMember m cs
  match m.skip cs with
  | [] => none
  | '-' :: rest =>
    if ahead? m rest = some ']' ∨ ahead? m rest = some '-' then
      if m.admitsMember first then some ('-' :: rest) else none
    else
      let (last, cs) ← readMember m (m.skip rest)
      if isRange first last && m.admitsMember first && m.admitsMember last then some cs
      else none
  | rest => if m.admitsMember first then some rest else none

/-! ## Brackets -/

/-- Reads the dashes at the head of a class, which are members. -/
def readDashes (m : Modes) (fuel : Nat) (members : Row) (cs : List Char) : Row × List Char :=
  match fuel, cs with
  | fuel + 1, '-' :: rest => readDashes m fuel (members.add 0) (m.skip rest)
  | _, cs => (members, cs)

/-- Reads the head of a class after its bracket: whether it is negated, and the members that
need no escape there. -/
def readHead (m : Modes) (cs : List Char) : Option (Bool × Row × List Char) :=
  let (negated, cs) : Bool × List Char :=
    match m.skip cs with
    | '^' :: rest => (true, m.skip rest)
    | rest => (false, rest)
  let (members, cs) := readDashes m cs.length {} cs
  let (members, cs) : Row × List Char :=
    match cs with
    | ']' :: rest => if members.size = 0 then (members.add 0, m.skip rest) else (members, cs)
    | _ => (members, cs)
  if cs.isEmpty then none
  else if members.size ≠ 0 && !m.admitsMember (.literal '-' false) then none
  else some (negated, members, cs)

/-- Reads the rest of a class with the members read so far, and gives its depth. The fuel
bounds the number of characters. -/
def readMembers (m : Modes) : Nat → List Frame → Row → List Char → Option (Nat × List Char)
  | 0, _, _, _ => none
  | fuel + 1, frames, members, cs =>
    match m.skip cs with
    | [] => none
    | '[' :: rest =>
      match readNamed rest with
      | some (negated, rest) =>
        if m.admitsNamed negated then readMembers m fuel frames (members.add 0) rest else none
      | none =>
        match readHead m rest with
        | none => none
        | some (negated, inner, rest) =>
          readMembers m fuel (.opened members negated :: frames) inner rest
    | ']' :: rest =>
      match join members.total frames with
      | (depth, .opened outer negated :: frames) =>
        if !m.admitsClass negated then none
        else if frames.isEmpty then some (depth + 1, rest)
        else readMembers m fuel frames (outer.add (depth + 1)) rest
      | _ => none
    | '&' :: '&' :: rest => mark fuel frames members rest
    | '-' :: '-' :: rest => mark fuel frames members rest
    | '~' :: '~' :: rest => mark fuel frames members rest
    | rest =>
      match readRange m rest with
      | none => none
      | some rest => readMembers m fuel frames (members.add 0) rest
where
  /-- Goes on after a mark. -/
  mark (fuel : Nat) (frames : List Frame) (members : Row) (rest : List Char) :
      Option (Nat × List Char) :=
    let (depth, frames) := join members.total frames
    readMembers m fuel (.joined depth :: frames) {} rest

/-- Reads a class after its bracket, and gives its depth. -/
def readClass (m : Modes) (cs : List Char) : Option (Nat × List Char) :=
  match readHead m cs with
  | none => none
  | some (negated, members, rest) =>
    readMembers m (rest.length + 1) [.opened {} negated] members rest

end Pattern

end Liveness

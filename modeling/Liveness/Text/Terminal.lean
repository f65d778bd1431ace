import Liveness.Text.Utf8

/-!
# Text without what drives a terminal

A text is written with sequences that set a style, and may hold others that came with the
user's own words. Where it is shown without style, all sequences are left out, and so are
the controls, but for those that only set text apart.
-/

namespace Liveness

namespace Terminal

/-! ## Sequences -/

inductive Place where
  | text
  | escape
  /-- among the blanks and marks of a short sequence -/
  | short
  /-- among the parameters of a control sequence -/
  | control
  /-- in a command to the system that runs the terminal -/
  | command
  /-- at the head of a string for a device -/
  | head
  /-- among the parameters of such a head -/
  | headParameters
  /-- among the marks of such a head -/
  | headMarks
  | string
deriving Repr, DecidableEq

/-- The controls that set text apart. -/
def isLayout (c : Char) : Bool :=
  c == '\t' || c == '\n' || c == '\x0c' || c == '\r'

def isControl (c : Char) : Bool :=
  c.toNat < 0x20 || c.toNat == 0x7f

def isAscii (c : Char) : Bool := c.toNat < 0x80

/-- The characters that open a string when they stand after an escape. -/
def opensString (c : Char) : Bool :=
  c == 'X' || c == '^' || c == '_'

/-- The byte that terminates a string. -/
def terminator : UInt8 := 0x9c

/-- Whether the terminator is among the bytes of a character. -/
def holdsTerminator (c : Char) : Bool :=
  (String.utf8EncodeChar c).contains terminator

/-- Whether a character is shown: anything but controls in text, and within the sequences
that are no strings the controls that set text apart. -/
def shown (p : Place) (c : Char) : Bool :=
  match p with
  | .text => !isControl c || isLayout c
  | .escape => isLayout c
  | .short => isLayout c
  | .control => isLayout c
  | _ => false

/-- Where the next character stands after an ASCII character of a sequence. -/
def within (p : Place) (c : Char) : Place :=
  let n := c.toNat
  if isControl c then if p = .command ∧ c = '\x07' then .text else p
  else
    match p with
    | .text => .text
    | .escape =>
      if c = '[' then .control
      else if c = ']' then .command
      else if c = 'P' then .head
      else if opensString c then .string
      else if n < 0x30 then .short
      else .text
    | .short => if n < 0x30 then .short else .text
    | .control => if n < 0x40 then .control else .text
    | .command => .command
    | .head => if n < 0x30 then .headMarks else if n < 0x40 then .headParameters else .string
    | .headParameters =>
      if n < 0x30 then .headMarks else if n < 0x3c then .headParameters else .string
    | .headMarks => if n < 0x30 then .headMarks else .string
    | .string => .string

/-- Where the next character stands after one that is not shown. An escape begins a new
sequence anywhere, and two other controls cancel one. A character outside ASCII is passed
over. -/
def next (p : Place) (c : Char) : Place :=
  if c = '\x1b' then .escape
  else if c = '\x18' ∨ c = '\x1a' then .text
  else if isAscii c then within p c
  else if p = .string ∧ holdsTerminator c then .text
  else p

/-! ## What is shown -/

/-- Where a text is shown. -/
inductive Medium where
  /-- within a message, where a shown character ends the sequence it stands in -/
  | message
  /-- on a stream, where the sequence goes on after the run of shown characters in its
  midst, unless one of these is outside ASCII -/
  | stream
deriving Repr, DecidableEq

/-- Where the next character stands after one that is shown. -/
def Medium.after (m : Medium) (p : Place) (c : Char) : Place :=
  match m with
  | .message => .text
  | .stream => if isAscii c then p else .text

/-- The characters that are shown. A run of them, once begun, goes on as if in text. -/
def visible (m : Medium) (p : Place) (inRun : Bool) : List Char → List Char
  | [] => []
  | c :: cs =>
    if shown (if inRun then .text else p) c then c :: visible m (m.after p c) true cs
    else visible m (next p c) false cs

def plain (m : Medium) (s : String) : String :=
  String.ofList (visible m .text false s.toList)

def emphasized (s : String) : String := "\x1b[1m" ++ s ++ "\x1b[0m"

end Terminal

end Liveness

import Liveness.Json.Number
import Liveness.Json.Quoted

/-!
# JSON tokens

A JSON text is cut into tokens by reading one character after the other. The first thing
that is no token gives `junk`, and nothing is read after it, so a reader of tokens meets
the faults of a text in the order in which they stand there.

A string token holds its text, or nothing if the text is broken because half of a pair of
surrogates stands alone.
-/

namespace Liveness

namespace Json

/-- The signs that structure a text. -/
inductive Mark where
  | openObject
  | closeObject
  | openList
  | closeList
  | colon
  | comma
deriving Repr, DecidableEq

inductive Word where
  | null
  | true
  | false
deriving Repr, DecidableEq

inductive Token where
  | mark (m : Mark)
  | word (w : Word)
  | number (n : Number)
  | string (text : Option String)
  | junk
deriving Repr, DecidableEq

namespace Token

/-! ## Where the lexer stands -/

/-- How far a number has been read. -/
inductive Phase where
  | sign
  | zero
  | whole
  | point
  | decimals
  | power
  | powerSign
  | powerDigits
deriving Repr, DecidableEq

/-- How far a string has been read. -/
inductive Inside where
  | plain
  | escape
  /-- after a backslash and `u`, with the digits read and their value -/
  | code (digits value : Nat)
  /-- after the first half of a pair -/
  | half (high : Nat)
  /-- after the first half of a pair and a backslash -/
  | halfEscape (high : Nat)
  | halfCode (high digits value : Nat)
deriving Repr, DecidableEq

inductive State where
  | gap
  /-- in a word, with the characters that have to follow -/
  | word (w : Word) (rest : List Char)
  | number (phase : Phase) (read : Literal)
  /-- in a string, with its characters, the latest first, unless it is broken -/
  | string (inside : Inside) (read : Option (List Char))
  | over
deriving Repr, DecidableEq

/-! ## Characters -/

/-- The white space of JSON. -/
def isSpace (c : Char) : Bool := c == ' ' || c == '\n' || c == '\t' || c == '\r'

def mark? (c : Char) : Option Mark :=
  if c = '\x7b' then some .openObject
  else if c = '\x7d' then some .closeObject
  else if c = '[' then some .openList
  else if c = ']' then some .closeList
  else if c = ':' then some .colon
  else if c = ',' then some .comma
  else none

/-- The word that starts with the character, and the characters that have to follow. -/
def word? (c : Char) : Option (Word × List Char) :=
  if c = 'n' then some (.null, ['u', 'l', 'l'])
  else if c = 't' then some (.true, ['r', 'u', 'e'])
  else if c = 'f' then some (.false, ['a', 'l', 's', 'e'])
  else none

def hexDigit? (c : Char) : Option Nat :=
  let n := c.toNat
  if 48 ≤ n ∧ n ≤ 57 then some (n - 48)
  else if 97 ≤ n ∧ n ≤ 102 then some (n - 87)
  else if 65 ≤ n ∧ n ≤ 70 then some (n - 55)
  else none

/-- The character for an escape of one letter. -/
def shortEscape? (c : Char) : Option Char :=
  if c = '"' then some '"'
  else if c = '\\' then some '\\'
  else if c = '/' then some '/'
  else if c = 'b' then some '\x08'
  else if c = 'f' then some '\x0c'
  else if c = 'n' then some '\n'
  else if c = 'r' then some '\r'
  else if c = 't' then some '\t'
  else none

/-! ## Steps

A step gives the tokens that are complete and the state in which the next character is
read. -/

abbrev Step := List Token × State

def fail : Step := ([.junk], .over)

def noDigits : Literal := ⟨false, [], [], none⟩

def stepGap (c : Char) : Step :=
  if isSpace c then ([], .gap)
  else
    match mark? c with
    | some m => ([.mark m], .gap)
    | none =>
      match word? c with
      | some (w, rest) => ([], .word w rest)
      | none =>
        if c = '"' then ([], .string .plain (some []))
        else if c = '-' then ([], .number .sign { noDigits with negative := true })
        else
          match Numeral.digit? c with
          | some d =>
            ([], .number (if d = 0 then .zero else .whole) { noDigits with whole := [d] })
          | none => fail

/-- A step after a number that may end here. -/
def stepPastNumber (l : Literal) (c : Char) : Step :=
  let (tokens, state) := stepGap c
  (.number l.number :: tokens, state)

def Literal.addDecimal (l : Literal) (d : Nat) : Literal :=
  { l with decimals := l.decimals ++ [d] }

def Literal.addPowerDigit (l : Literal) (d : Nat) : Literal :=
  match l.power with
  | none => { l with power := some (false, [d]) }
  | some (down, digits) => { l with power := some (down, digits ++ [d]) }

/-- A step after digits that may be followed by a point or a power. -/
def stepTail (l : Literal) (pointAllowed : Bool) (c : Char) : Step :=
  if c = '.' ∧ pointAllowed then ([], .number .point l)
  else if c = 'e' ∨ c = 'E' then ([], .number .power l)
  else stepPastNumber l c

def stepNumber (l : Literal) (c : Char) : Phase → Step
  | .sign =>
    match Numeral.digit? c with
    | some d => ([], .number (if d = 0 then .zero else .whole) { l with whole := [d] })
    | none => fail
  | .zero => if (Numeral.digit? c).isSome then fail else stepTail l true c
  | .whole =>
    match Numeral.digit? c with
    | some d => ([], .number .whole { l with whole := l.whole ++ [d] })
    | none => stepTail l true c
  | .point =>
    match Numeral.digit? c with
    | some d => ([], .number .decimals (Literal.addDecimal l d))
    | none => fail
  | .decimals =>
    match Numeral.digit? c with
    | some d => ([], .number .decimals (Literal.addDecimal l d))
    | none => stepTail l false c
  | .power =>
    if c = '+' then ([], .number .powerSign { l with power := some (false, []) })
    else if c = '-' then ([], .number .powerSign { l with power := some (true, []) })
    else
      match Numeral.digit? c with
      | some d => ([], .number .powerDigits (Literal.addPowerDigit l d))
      | none => fail
  | .powerSign =>
    match Numeral.digit? c with
    | some d => ([], .number .powerDigits (Literal.addPowerDigit l d))
    | none => fail
  | .powerDigits =>
    match Numeral.digit? c with
    | some d => ([], .number .powerDigits (Literal.addPowerDigit l d))
    | none => stepPastNumber l c

/-- One more character of a string that is not broken. -/
def push (c : Char) (read : Option (List Char)) : Option (List Char) :=
  read.map (c :: ·)

/-- A step in the plain part of a string. -/
def stepPlain (read : Option (List Char)) (c : Char) : Step :=
  if c = '"' then ([.string (read.map fun cs => String.ofList cs.reverse)], .gap)
  else if c = '\\' then ([], .string .escape read)
  else if c.toNat < 0x20 then fail
  else ([], .string .plain (push c read))

/-- The state after four digits of an escape: a character, half of a pair, or a break. -/
def afterCode (code : Nat) (read : Option (List Char)) : State :=
  if 0xd800 ≤ code ∧ code ≤ 0xdbff then .string (.half code) read
  else if 0xdc00 ≤ code ∧ code ≤ 0xdfff then .string .plain none
  else .string .plain (push (Char.ofNat code) read)

/-- The state after four digits that follow the first half of a pair. -/
def afterHalfCode (high code : Nat) (read : Option (List Char)) : State :=
  if 0xdc00 ≤ code ∧ code ≤ 0xdfff then
    .string .plain (push (Char.ofNat (0x10000 + (high - 0xd800) * 0x400 + (code - 0xdc00))) read)
  else afterCode code none

def stepEscape (read : Option (List Char)) (c : Char) : Step :=
  if c = 'u' then ([], .string (.code 0 0) read)
  else
    match shortEscape? c with
    | some e => ([], .string .plain (push e read))
    | none => fail

def stepString (read : Option (List Char)) (c : Char) : Inside → Step
  | .plain => stepPlain read c
  | .escape => stepEscape read c
  | .code digits value =>
    match hexDigit? c with
    | none => fail
    | some d =>
      if digits = 3 then ([], afterCode (16 * value + d) read)
      else ([], .string (.code (digits + 1) (16 * value + d)) read)
  | .half high =>
    if c = '\\' then ([], .string (.halfEscape high) read) else stepPlain none c
  | .halfEscape high =>
    if c = 'u' then ([], .string (.halfCode high 0 0) read) else stepEscape none c
  | .halfCode high digits value =>
    match hexDigit? c with
    | none => fail
    | some d =>
      if digits = 3 then ([], afterHalfCode high (16 * value + d) read)
      else ([], .string (.halfCode high (digits + 1) (16 * value + d)) read)

def step (c : Char) : State → Step
  | .gap => stepGap c
  | .word w rest =>
    match rest with
    | [] => fail
    | [last] => if c = last then ([.word w], .gap) else fail
    | first :: more => if c = first then ([], .word w more) else fail
  | .number phase l => stepNumber l c phase
  | .string inside read => stepString read c inside
  | .over => ([], .over)

/-- The last tokens of a text that ends here. -/
def finish : State → List Token
  | .gap => []
  | .over => []
  | .number phase l =>
    match phase with
    | .zero | .whole | .decimals | .powerDigits => [.number l.number]
    | _ => [.junk]
  | _ => [.junk]

/-- The tokens of a text that is read on from a state. -/
def lexFrom : State → List Char → List Token
  | state, [] => finish state
  | state, c :: rest =>
    let (tokens, state) := step c state
    tokens ++ lexFrom state rest

def lex (cs : List Char) : List Token := lexFrom .gap cs

end Token

end Json

end Liveness

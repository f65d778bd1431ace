/-!
# Positional numerals

The digits of a number in a base, the decimal text of a number, and the reader of decimal
text with an upper bound. The reader goes from left to right and reports the first fault
it meets, so a character that is no digit and a value that grows too large are told apart
by which comes first.
-/

namespace Liveness

namespace Numeral

/-! ## Writing -/

/-- The digits of `n` in `base`, most significant first; a single digit has no leading
zero, and a base below two gives the number itself as its one digit. -/
def digitsIn (base n : Nat) : List Nat :=
  if _h : base < 2 ∨ n < base then [n]
  else digitsIn base (n / base) ++ [n % base]
termination_by n
decreasing_by exact Nat.div_lt_self (by omega) (by omega)

theorem digitsIn_of_lt {base n : Nat} (h : n < base) : digitsIn base n = [n] := by
  rw [digitsIn, dif_pos (Or.inr h)]

theorem digitsIn_of_le {base n : Nat} (hb : 2 ≤ base) (h : base ≤ n) :
    digitsIn base n = digitsIn base (n / base) ++ [n % base] := by
  rw [digitsIn, dif_neg (by omega)]

/-- The character of one digit: `0` to `9`, then `a` to `f`. -/
def digitChar (d : Nat) : Char :=
  if d < 10 then Char.ofNat (48 + d) else Char.ofNat (87 + d)

def decimalChars (n : Nat) : List Char :=
  (digitsIn 10 n).map digitChar

def decimal (n : Nat) : String :=
  String.ofList (decimalChars n)

def hexChars (n : Nat) : List Char :=
  (digitsIn 16 n).map digitChar

def signedDecimal : Int → String
  | .ofNat n => decimal n
  | .negSucc n => "-" ++ decimal (n + 1)

/-! ## Reading -/

/-- Why a text is no number of the wanted kind. -/
inductive Fault where
  | empty
  | invalidDigit
  | tooLarge
  | tooSmall
deriving Repr, DecidableEq

def Fault.message : Fault → String
  | .empty => "cannot parse integer from empty string"
  | .invalidDigit => "invalid digit found in string"
  | .tooLarge => "number too large to fit in target type"
  | .tooSmall => "number too small to fit in target type"

def digit? (c : Char) : Option Nat :=
  if 48 ≤ c.toNat ∧ c.toNat ≤ 57 then some (c.toNat - 48) else none

/-- Reads digits after a value already read; no value on the way may pass `limit`. -/
def readDigits (limit : Nat) : Nat → List Char → Except Fault Nat
  | value, [] => .ok value
  | value, c :: rest =>
    match digit? c with
    | none => .error .invalidDigit
    | some d =>
      if limit < 10 * value + d then .error .tooLarge
      else readDigits limit (10 * value + d) rest

/-- Reads digits of which there must be at least one. -/
def readSomeDigits (limit : Nat) (cs : List Char) : Except Fault Nat :=
  if cs.isEmpty then .error .invalidDigit else readDigits limit 0 cs

/-- Reads a number from zero to `limit`: an optional plus sign and digits. -/
def readNat (limit : Nat) : List Char → Except Fault Nat
  | [] => .error .empty
  | '+' :: rest => readSomeDigits limit rest
  | cs => readDigits limit 0 cs

/-- Reads a number from `-limit - 1` to `limit`: an optional sign and digits. -/
def readInt (limit : Nat) : List Char → Except Fault Int
  | [] => .error .empty
  | '+' :: rest => (readSomeDigits limit rest).map Int.ofNat
  | '-' :: rest =>
    match readSomeDigits (limit + 1) rest with
    | .ok n => .ok (-Int.ofNat n)
    | .error .tooLarge => .error .tooSmall
    | .error fault => .error fault
  | cs => (readDigits limit 0 cs).map Int.ofNat

/-! ## Real numbers -/

def isDigit (c : Char) : Bool := (digit? c).isSome

/-- Whether a text is empty or an exponent: a letter, an optional sign, and digits. -/
def isExponent : List Char → Bool
  | [] => true
  | e :: rest =>
    let digits :=
      match rest with
      | '+' :: digits => digits
      | '-' :: digits => digits
      | digits => digits
    (e == 'e' || e == 'E') && !digits.isEmpty && digits.all isDigit

/-- Whether a text is a number without a sign: digits with a point among them or at one of
their ends, and an exponent. -/
def isUnsignedReal (cs : List Char) : Bool :=
  let whole := cs.takeWhile isDigit
  match cs.dropWhile isDigit with
  | '.' :: rest =>
    let fraction := rest.takeWhile isDigit
    !(whole.isEmpty && fraction.isEmpty) && isExponent (rest.dropWhile isDigit)
  | rest => !whole.isEmpty && isExponent rest

/-- The words for what is no finite number. -/
def boundlessNames : List String := ["inf", "infinity", "nan"]

/-- Whether a text is a real number: an optional sign, and a number or a word for what is no
finite one, in any case of its letters. -/
def isReal (cs : List Char) : Bool :=
  let cs :=
    match cs with
    | '+' :: rest => rest
    | '-' :: rest => rest
    | cs => cs
  isUnsignedReal cs || boundlessNames.contains (String.ofList (cs.map Char.toLower))

end Numeral

end Liveness

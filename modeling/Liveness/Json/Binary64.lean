import Liveness.Text.Numeral

/-!
# Floating point numbers as text

A finite number of double precision is written with the fewest decimal digits that read
back as the same number; of several such texts the nearest one is taken, and of two equally
near ones the one with the even last digit.
-/

namespace Liveness

namespace Binary64

/-- A finite double without its sign: `mantissa * 2 ^ exponent`. -/
structure Magnitude where
  mantissa : Nat
  exponent : Int
  /-- whether the next smaller double is only half as far away as the next greater one -/
  narrowBelow : Bool

/-- The magnitude that the bits of a finite double stand for. -/
def ofBits (bits : UInt64) : Magnitude :=
  let fraction : Nat := bits.toNat % Nat.pow 2 52
  let biased : Nat := bits.toNat / Nat.pow 2 52 % Nat.pow 2 11
  if biased = 0 then ⟨fraction, -1074, false⟩
  else ⟨Nat.pow 2 52 + fraction, (biased : Int) - 1075, fraction == 0 && biased != 1⟩

/-- Whether the bits are those of a negative number or of the negative zero. -/
def isNegative (bits : UInt64) : Bool := Nat.pow 2 63 ≤ bits.toNat

/-- A power with a possibly negative exponent, as numerator and denominator. -/
def ratio (base : Nat) (e : Int) : Nat × Nat :=
  if 0 ≤ e then (Nat.pow base e.toNat, 1) else (1, Nat.pow base (-e).toNat)

/-- The decimal numbers `k * 10 ^ place` that read back as the magnitude, where `k` is one
of the two neighbours of the magnitude on that grid; the nearest first. -/
def candidates (m : Magnitude) (place : Int) : List Nat :=
  let (twoUp, twoDown) := ratio 2 (m.exponent - 2)
  let (tenUp, tenDown) := ratio 10 place
  -- on a common scale, `unit` is one step of the grid, the rest are the magnitude and the ends
  let scale := twoUp * tenDown
  let unit := tenUp * twoDown
  let value := 4 * m.mantissa * scale
  let high := (4 * m.mantissa + 2) * scale
  let low := (4 * m.mantissa - if m.narrowBelow then 1 else 2) * scale
  let even := m.mantissa % 2 == 0
  let fits (k : Nat) : Bool :=
    if even then low ≤ k * unit && k * unit ≤ high else low < k * unit && k * unit < high
  let below := value / unit
  let remainder := value % unit
  let belowFirst : Bool :=
    2 * remainder < unit || (2 * remainder == unit && below % 2 == 0)
  let ordered := if belowFirst then [below, below + 1] else [below + 1, below]
  ordered.filter fun k => 0 < k && fits k

/-- The place of the first digit of a number that is not zero, for the numerator and the
denominator of the number. -/
def leadingPlace (num den : Nat) : Int :=
  if den ≤ num then (Numeral.digitsIn 10 (num / den)).length - 1
  else
    let shift := (List.range 400).find? fun s => den ≤ num * Nat.pow 10 (s + 1)
    .negSucc (shift.getD 0)

/-- Digits and place of the last digit, without zeros at the end. -/
def stripZeros : Nat → Nat → Int → Nat × Int
  | 0, k, place => (k, place)
  | fuel + 1, k, place =>
    if k % 10 = 0 then stripZeros fuel (k / 10) (place + 1) else (k, place)

/-- The shortest decimal `k * 10 ^ place` that reads back as the magnitude. -/
def shortest (m : Magnitude) : Nat × Int :=
  if m.mantissa = 0 then (0, 0)
  else
    let (twoUp, twoDown) := ratio 2 m.exponent
    let lead := leadingPlace (m.mantissa * twoUp) twoDown
    let found := (List.range 17).findSome? fun (n : Nat) =>
      let place : Int := lead - n
      (candidates m place).head?.map fun k => stripZeros 20 k place
    found.getD (0, 0)

/-! ## Layout -/

/-- The exponents of the first digit for which no power of ten is written. -/
def positional (e : Int) : Bool := -5 ≤ e && e ≤ 15

def zeros (n : Nat) : List Char := List.replicate n '0'

/-- The digits with the point at its place, and at least one digit on either side. -/
def positionalText (digits : List Char) (place : Int) : List Char :=
  if 0 ≤ place then digits ++ zeros place.toNat ++ ['.', '0']
  else
    let decimals := (-place).toNat
    let padded := zeros (decimals + 1 - digits.length) ++ digits
    padded.take (padded.length - decimals) ++ '.' :: padded.drop (padded.length - decimals)

/-- The digits with the point after the first one, and a signed power of ten. -/
def scientificText (digits : List Char) (e : Int) : List Char :=
  let mantissa :=
    match digits with
    | first :: second :: rest => first :: '.' :: second :: rest
    | short => short
  let sign := if 0 ≤ e then '+' else '-'
  mantissa ++ 'e' :: sign :: Numeral.decimalChars e.natAbs

def text (x : Float) : String :=
  let bits := x.toBits
  let (k, place) := shortest (ofBits bits)
  let digits := Numeral.decimalChars k
  let e := place + digits.length - 1
  let body := if positional e then positionalText digits place else scientificText digits e
  String.ofList (if isNegative bits then '-' :: body else body)

end Binary64

end Liveness

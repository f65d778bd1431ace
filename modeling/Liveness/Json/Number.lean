import Liveness.Json.Binary64

/-!
# JSON numbers

A number is read as its parts: sign, digits, decimals and power of ten. A number without
decimals and power that fits 64 bits is a whole number; every other one is taken in double
precision. Then only as many leading digits count as fit 64 bits, and the result is scaled
by one multiplication or division, so the last digit of a long number may be off.
-/

namespace Liveness

namespace Json

structure Literal where
  negative : Bool
  whole : List Nat
  decimals : List Nat
  /-- whether the power of ten is negative, and its digits -/
  power : Option (Bool × List Nat)
deriving Repr, DecidableEq

def wordLimit : Nat := UInt64.size - 1

inductive Number where
  | natural (n : Nat)
  /-- the negative of a number that is not zero -/
  | negative (n : Nat)
  | real (negative : Bool) (significand : Nat) (power : Int)
  /-- zero by way of a power of ten too far below zero -/
  | vanishing (negative : Bool)
  /-- a power of ten too far above zero -/
  | excessive
deriving Repr, DecidableEq

/-- Reads leading digits as long as the value fits 64 bits; the digits not read are left. -/
def readWord : Nat → List Nat → Nat × List Nat
  | value, [] => (value, [])
  | value, d :: rest =>
    if wordLimit < 10 * value + d then (value, d :: rest) else readWord (10 * value + d) rest

/-- The greatest power of ten that is taken as it is written. -/
def powerLimit : Nat := UInt32.size / 2 - 1

/-- A power of ten from its digits, none if it is above the limit. -/
def readPower : Nat → List Nat → Option Nat
  | value, [] => some value
  | value, d :: rest =>
    if powerLimit < 10 * value + d then none else readPower (10 * value + d) rest

def clampPower (e : Int) : Int :=
  max (-(powerLimit : Int) - 1) (min e powerLimit)

namespace Literal

/-- The number that is taken in double precision. -/
def real (l : Literal) : Number :=
  let (value, droppedWhole) := readWord 0 l.whole
  let (significand, droppedDecimals) := readWord value l.decimals
  let start : Int := droppedWhole.length - (l.decimals.length - droppedDecimals.length : Nat)
  match l.power with
  | none => .real l.negative significand start
  | some (down, digits) =>
    match readPower 0 digits with
    | some e =>
      .real l.negative significand (clampPower (if down then start - e else start + e))
    | none => if significand ≠ 0 && !down then .excessive else .vanishing l.negative

def number (l : Literal) : Number :=
  match l.decimals, l.power, readWord 0 l.whole with
  | [], none, (n, []) =>
    if !l.negative then .natural n
    else if 1 ≤ n ∧ n ≤ UInt64.size / 2 then .negative n
    else .real true n 0
  | _, _, _ => l.real

end Literal

/-! ## Double precision -/

/-- The greatest power of ten of double precision. -/
def stepLimit : Nat := 308

def tenTo (n : Nat) : Float := Float.ofScientific 1 false n

/-- A number times a power of ten; none if it gets infinite. -/
def scale (x : Float) (e : Int) : Option Float :=
  let n := e.natAbs
  if 0 ≤ e then
    if n ≤ stepLimit then
      let y := x * tenTo n
      if y.isInf then none else some y
    else if x == 0 then some 0 else none
  else if n ≤ stepLimit then some (x / tenTo n)
  else if n - stepLimit ≤ stepLimit then some (x / tenTo stepLimit / tenTo (n - stepLimit))
  else some 0

/-- The double that a number is taken as; none if there is no finite one. -/
def Number.double? : Number → Option Float
  | .natural n => some n.toUInt64.toFloat
  | .negative n => some (-n.toUInt64.toFloat)
  | .real minus significand power =>
    (scale significand.toUInt64.toFloat power).map fun x => if minus then -x else x
  | .vanishing minus => some (if minus then -0.0 else 0.0)
  | .excessive => none

end Json

end Liveness

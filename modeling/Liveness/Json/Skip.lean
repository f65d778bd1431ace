import Liveness.Json.Token

/-!
# Skipping a JSON value

A value that nobody asks for is skipped token by token. A stack holds the lists and
objects that are open, so values may be nested to any depth.
-/

namespace Liveness

namespace Json

/-- A container that is open. -/
inductive Frame where
  | list
  | object
deriving Repr, DecidableEq

namespace Skip

/-- What may come next. -/
inductive Mode where
  | value
  /-- after a value; with no container open, the end -/
  | afterValue
  /-- the first member of the innermost container, or its end -/
  | first
  | key
  | colon
deriving Repr, DecidableEq

/-- What follows a token at which a value begins. -/
def beginValue (stack : List Frame) : Token → Option (Mode × List Frame)
  | .word _ => some (.afterValue, stack)
  | .number _ => some (.afterValue, stack)
  | .string _ => some (.afterValue, stack)
  | .mark .openList => some (.first, .list :: stack)
  | .mark .openObject => some (.first, .object :: stack)
  | _ => none

/-- What follows a token at which a key stands. -/
def takeKey (stack : List Frame) : Token → Option (Mode × List Frame)
  | .string _ => some (.colon, stack)
  | _ => none

/-- What follows a token, given what may come. -/
def step (t : Token) : Mode → List Frame → Option (Mode × List Frame)
  | .value, stack => beginValue stack t
  | .first, .list :: stack =>
    if t = .mark .closeList then some (.afterValue, stack) else beginValue (.list :: stack) t
  | .first, .object :: stack =>
    if t = .mark .closeObject then some (.afterValue, stack) else takeKey (.object :: stack) t
  | .first, [] => none
  | .key, stack => takeKey stack t
  | .colon, stack => if t = .mark .colon then some (.value, stack) else none
  | .afterValue, .list :: stack =>
    if t = .mark .comma then some (.value, .list :: stack)
    else if t = .mark .closeList then some (.afterValue, stack)
    else none
  | .afterValue, .object :: stack =>
    if t = .mark .comma then some (.key, .object :: stack)
    else if t = .mark .closeObject then some (.afterValue, stack)
    else none
  | .afterValue, [] => none

/-- Skips to the end of the outermost value and gives the tokens after it. -/
def run : Mode → List Frame → List Token → Option (List Token)
  | .afterValue, [], ts => some ts
  | _, _, [] => none
  | mode, stack, t :: rest =>
    match step t mode stack with
    | none => none
    | some (mode, stack) => run mode stack rest

end Skip

def skipValue (ts : List Token) : Option (List Token) :=
  Skip.run .value [] ts

namespace Skip

theorem run_length_le {mode : Mode} {stack : List Frame} {ts rest : List Token}
    (h : run mode stack ts = some rest) : rest.length ≤ ts.length := by
  induction ts generalizing mode stack with
  | nil =>
    unfold run at h
    split at h <;> simp_all
  | cons t ts ih =>
    unfold run at h
    split at h
    · cases h; exact Nat.le_refl _
    · contradiction
    · rename_i heq
      cases heq
      split at h
      · cases h
      · exact Nat.le_succ_of_le (ih h)

theorem run_length_lt {mode : Mode} {stack : List Frame} {ts rest : List Token}
    (h : run mode stack ts = some rest) (hm : mode ≠ .afterValue) :
    rest.length < ts.length := by
  unfold run at h
  split at h
  · contradiction
  · cases h
  · split at h
    · cases h
    · exact Nat.lt_succ_of_le (run_length_le h)

end Skip

/-- Skipping takes at least one token. -/
theorem skipValue_length_lt {ts rest : List Token} (h : skipValue ts = some rest) :
    rest.length < ts.length :=
  Skip.run_length_lt h (by decide)

end Json

end Liveness

/-!
# How a computation ends

A computation that talks to the world ends in one of four ways: it has a value, it reports
a failure that its caller can handle, it is cut short by an abort that no caller expects,
or it waits for something that never happens.
-/

namespace Liveness

/-- The end of a computation with values in `α` and reported failures in `ε`. -/
inductive Ending (ε α : Type) where
  | value (a : α)
  | failure (e : ε)
  /-- cut short, with the message of the abort -/
  | abort (message : String)
  /-- waits for ever -/
  | stalled
deriving Repr, DecidableEq

namespace Ending

variable {ε φ α β : Type}

/-- Continues with the value, if there is one. -/
def bind : Ending ε α → (α → Ending ε β) → Ending ε β
  | .value a, f => f a
  | .failure e, _ => .failure e
  | .abort m, _ => .abort m
  | .stalled, _ => .stalled

def map (f : α → β) (x : Ending ε α) : Ending ε β :=
  x.bind fun a => .value (f a)

def mapFailure (f : ε → φ) : Ending ε α → Ending φ α
  | .value a => .value a
  | .failure e => .failure (f e)
  | .abort m => .abort m
  | .stalled => .stalled

/-- The end of a computation that can only succeed or report. -/
def ofExcept : Except ε α → Ending ε α
  | .ok a => .value a
  | .error e => .failure e

@[simp] theorem bind_value (a : α) (f : α → Ending ε β) : (value a).bind f = f a := rfl

@[simp] theorem map_value (f : α → β) (a : α) : (value a : Ending ε α).map f = value (f a) := rfl

@[simp] theorem mapFailure_failure (f : ε → φ) (e : ε) :
    (failure e : Ending ε α).mapFailure f = failure (f e) := rfl

end Ending

/-- The message of an abort by a counter that would pass its limit. -/
def overflowMessage : String := "attempt to add with overflow"

/-- The message of an abort by a request for more memory than can be addressed. -/
def capacityMessage : String := "capacity overflow"

end Liveness

import Liveness.Probe.Session
import Mathlib.Logic.Function.Basic

/-!
# Histories replayed on a transport

A history tells which requests were made and how they were answered. It replays on a transport if
the transport does the same when it is asked again in that order: a request is sent and its call
is under way from then on, and an answer is what the transport gives to the call of its request,
which is over with it. What is noted or handed over is no affair of the transport.

A history settles what is left by its replay, the memory of the transport and the calls under way
(`Replays.unique`). So what is known of these from one request holds for every other.
-/

namespace Liveness

/-- The calls under way, by the numbers of their requests. -/
abbrev Calls (C : Type) := Nat → Option C

namespace Transport

variable {S C : Type} {t : Transport S C} {m m' m'' : S} {calls calls' calls'' : Calls C}
  {e : Event} {es fs : List Event}

/-- What an event makes of the memory of the transport and of the calls under way. -/
inductive Plays (t : Transport S C) (m : S) (calls : Calls C) : Event → S → Calls C → Prop where
  | requested (seq : Nat) (url : String) :
      Plays t m calls (.requested seq url) (t.send url m).2
        (Function.update calls seq (some (t.send url m).1))
  | answered {seq : Nat} {call : C} {a : Answer} (hcall : calls seq = some call)
      (ha : (t.receive call m).1 = a) :
      Plays t m calls (.answered seq a) (t.receive call m).2 (Function.update calls seq none)
  | noted (n : Notice) : Plays t m calls (.noted n) m calls
  | delivered (seq : Nat) (o : Outcome) : Plays t m calls (.delivered seq o) m calls

/-- The same for a history, one event after the other. -/
inductive Replays (t : Transport S C) : S → Calls C → List Event → S → Calls C → Prop where
  | nil {m : S} {calls : Calls C} : Replays t m calls [] m calls
  | cons {m m' m'' : S} {calls calls' calls'' : Calls C} {e : Event} {es : List Event}
      (he : t.Plays m calls e m' calls') (hes : Replays t m' calls' es m'' calls'') :
      Replays t m calls (e :: es) m'' calls''

theorem Plays.unique (h : t.Plays m calls e m' calls') (h' : t.Plays m calls e m'' calls'') :
    m' = m'' ∧ calls' = calls'' := by
  cases h with
  | requested =>
      cases h'
      exact ⟨rfl, rfl⟩
  | answered hcall =>
      cases h' with
      | answered hcall' =>
          obtain rfl := Option.some.inj (hcall.symm.trans hcall')
          exact ⟨rfl, rfl⟩
  | noted =>
      cases h'
      exact ⟨rfl, rfl⟩
  | delivered =>
      cases h'
      exact ⟨rfl, rfl⟩

theorem Replays.unique (h : t.Replays m calls es m' calls')
    (h' : t.Replays m calls es m'' calls'') : m' = m'' ∧ calls' = calls'' := by
  induction h with
  | nil =>
      cases h'
      exact ⟨rfl, rfl⟩
  | cons he _ ih =>
      cases h' with
      | cons he' hes' =>
          obtain ⟨rfl, rfl⟩ := he.unique he'
          exact ih hes'

theorem Replays.append (h : t.Replays m calls es m' calls')
    (h' : t.Replays m' calls' fs m'' calls'') : t.Replays m calls (es ++ fs) m'' calls'' := by
  induction h with
  | nil => exact h'
  | cons he _ ih => exact .cons he (ih h')

theorem Plays.replays (h : t.Plays m calls e m' calls') : t.Replays m calls [e] m' calls' :=
  .cons h .nil

end Transport

end Liveness

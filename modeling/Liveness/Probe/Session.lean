import Liveness.Log.Notice
import Liveness.Probe.Transport

/-!
# What happens in the course of probing

A session holds the memory of the transport and the history of everything that can be seen
from outside: requests, answers, log notices, and outcomes handed over. The requests of a
batch are numbered from zero; a request of its own has number zero.
-/

namespace Liveness

inductive Event where
  | requested (seq : Nat) (url : String)
  | answered (seq : Nat) (answer : Answer)
  | noted (notice : Notice)
  /-- an outcome was handed to whoever asked for it -/
  | delivered (seq : Nat) (outcome : Outcome)
deriving Repr

structure Session (S : Type) where
  memory : S
  /-- the history, the latest event first -/
  events : List Event
deriving Repr

namespace Session

variable {S C : Type}

def begin (memory : S) : Session S := ⟨memory, []⟩

def add (e : Event) (s : Session S) : Session S :=
  { s with events := e :: s.events }

def note (n : Notice) (s : Session S) : Session S :=
  s.add (.noted n)

def history (s : Session S) : List Event := s.events.reverse

@[simp] theorem history_add (e : Event) (s : Session S) :
    (s.add e).history = s.history ++ [e] := by
  simp [history, add]

@[simp] theorem memory_add (e : Event) (s : Session S) : (s.add e).memory = s.memory := rfl

def send (t : Transport S C) (seq : Nat) (url : String) (s : Session S) : C × Session S :=
  let (call, memory) := t.send url s.memory
  (call, { s with memory }.add (.requested seq url))

def receive (t : Transport S C) (seq : Nat) (call : C) (s : Session S) : Answer × Session S :=
  let (answer, memory) := t.receive call s.memory
  (answer, { s with memory }.add (.answered seq answer))

end Session

/-! ## Views of a history -/

namespace Event

def urls (es : List Event) : List String :=
  es.filterMap fun
    | .requested _ url => some url
    | _ => none

def notices (es : List Event) : List Notice :=
  es.filterMap fun
    | .noted n => some n
    | _ => none

/-- The outcomes in the order in which they were handed over. -/
def deliveries (es : List Event) : List Outcome :=
  es.filterMap fun
    | .delivered _ o => some o
    | _ => none

def answers (es : List Event) : List Answer :=
  es.filterMap fun
    | .answered _ a => some a
    | _ => none

end Event

def Session.requests {S : Type} (s : Session S) : Nat := (Event.urls s.history).length

@[simp] theorem Session.requests_note {S : Type} (n : Notice) (s : Session S) :
    (s.note n).requests = s.requests := by
  simp [requests, note, Event.urls]

end Liveness

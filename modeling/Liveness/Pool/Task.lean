import Liveness.Log.Notice
import Liveness.Pool.Schedule

/-!
# Plain tasks

The jobs that show what a pool does with each kind of job: one that returns, one that
panics, one that takes its worker along, and groups of jobs that wait until all of their
group are running.
-/

namespace Liveness

open Pool

inductive Task where
  | returns
  | panics
  | kills
  /-- a member of a group with `size` members that has not started -/
  | joins (group size : Nat)
  /-- a member that waits for the others -/
  | waits (group size : Nat)
deriving Repr, DecidableEq

namespace Task

/-- A number for each group that has one, zero for the others. -/
abbrev Tally := List (Nat × Nat)

namespace Tally

def count : Tally → Nat → Nat
  | [], _ => 0
  | (g, n) :: rest, group => if group = g then n else count rest group

def add (group : Nat) : Tally → Tally
  | [] => [(group, 1)]
  | (g, n) :: rest => if group = g then (g, n + 1) :: rest else (g, n) :: add group rest

theorem count_add (group : Nat) (t : Tally) (g : Nat) :
    (t.add group).count g = if g = group then t.count g + 1 else t.count g := by
  fun_induction add group t with
  | case1 => simp [count]
  | case2 n rest => grind [count]
  | case3 k n rest hk ih => grind [count]

end Tally

/-- What the tasks share: how many members of each group are running or have run, and what
the pool recorded, the latest first. -/
structure Board where
  arrived : Tally
  notices : List Notice

namespace Board

def empty : Board := ⟨[], []⟩

/-- How many members of a group are running or have run. -/
def present (b : Board) (group : Nat) : Nat := b.arrived.count group

def arrive (b : Board) (group : Nat) : Board := { b with arrived := b.arrived.add group }

@[simp] theorem present_empty (group : Nat) : empty.present group = 0 := rfl

@[simp] theorem present_arrive (b : Board) (group g : Nat) :
    (b.arrive group).present g = if g = group then b.present g + 1 else b.present g :=
  Tally.count_add group b.arrived g

/-- What the pool recorded, in order. -/
def log (b : Board) : List Notice := b.notices.reverse

end Board

def Board.record (event : Event) (b : Board) : Board :=
  { b with notices := .ofPool event :: b.notices }

def turn : Task → Board → Option (Turn Task × Board)
  | .returns, b => some (.finished, b)
  | .panics, b => some (.panicked, b)
  | .kills, b => some (.fatal, b)
  | .joins group size, b => some (.more (.waits group size), b.arrive group)
  | .waits group size, b => if size ≤ b.present group then some (.finished, b) else none

def rank : Task → Nat
  | .joins _ _ => 1
  | _ => 0

/-- Tasks as jobs of a pool; they do not depend on the worker. -/
def load : Workload Task Board where
  turn _ task board := turn task board
  record := Board.record
  rank := rank
  rank_more {_ task board rest board'} h := by
    cases task <;> simp [turn] at h
    case joins group size =>
      obtain ⟨h, -⟩ := h
      subst h
      simp [rank]

/-- The members of a group, ready to be submitted one after the other. -/
def group (id size : Nat) : List Task :=
  List.replicate size (.joins id size)

end Task

end Liveness

import Liveness.Pool.Schedule
import Liveness.Proofs.Pool.Lifecycle

/-!
# Each panic that is caught is recorded once

A worker that catches the panic of its job records that with its next move. So at every moment
the panics are those that are recorded and those of the workers that are about to record one,
and when all workers have ended each panic has its record.

What the world shows of panics and of their records is up to the jobs, which is why the counts
are a relation on worlds here.
-/

namespace Liveness

namespace Pool

variable {J W : Type} {load : Workload J W} {tally : W → Nat → Nat → Prop} {p q : Pool J W}

def Turn.panics : Turn J → Nat
  | .panicked => 1
  | _ => 0

def Event.panics : Event → Nat
  | .jobPanicked _ => 1
  | _ => 0

/-- One for a worker that has caught a panic and not recorded it. -/
def Worker.panics : Worker J → Nat
  | .caught _ => 1
  | _ => 0

/-- `tally world recorded caught` counts the panics that are recorded and those that jobs ended
with: only a turn that panics adds to these, and only the record of a panic to the others. -/
structure Tallies (load : Workload J W) (tally : W → Nat → Nat → Prop) : Prop where
  turn : ∀ {i job turn world world' recorded caught}, tally world recorded caught →
    load.turn i job world = some (turn, world') → tally world' recorded (caught + turn.panics)
  record : ∀ {world recorded caught} (event : Event), tally world recorded caught →
    tally (load.record event world) (recorded + event.panics) caught

/-- The panics that are not recorded are those of the workers that are about to do so. -/
def Recovering (tally : W → Nat → Nat → Prop) (p : Pool J W) : Prop :=
  ∃ recorded, tally p.world recorded (recorded + total Worker.panics p.workers)

theorem recovering_ofSize {n : Nat} {script : List (Command J)} {world : W}
    (h : tally world 0 0) : Recovering tally (ofSize n script world) := by
  refine ⟨0, ?_⟩
  have hidle : (Worker.idle : Worker J).panics = 0 := rfl
  rw [ofSize, total_replicate, hidle, Nat.mul_zero]
  exact h

/-- A worker takes a new state, and the counts change as its state does. -/
theorem Recovering.set {i recorded caught : Nat} {a b : Worker J} {world : W}
    (hw : p.workers[i]? = some a) (hws : q.workers = p.workers.set i b) (hworld : q.world = world)
    (h : tally world recorded caught)
    (hcaught : caught + a.panics = recorded + total Worker.panics p.workers + b.panics) :
    Recovering tally q := by
  have hset := total_set Worker.panics b hw
  have heq : caught = recorded + total Worker.panics q.workers := by
    rw [hws]
    omega
  rw [Recovering, hworld]
  exact ⟨recorded, heq ▸ h⟩

theorem Recovering.step (h : Recovering tally p) (ht : Tallies load tally)
    (hmove : Transition load p q) : Recovering tally q := by
  obtain ⟨recorded, htally⟩ := h
  cases hmove with
  | take hw => exact Recovering.set hw rfl rfl htally rfl
  | stop hw => exact Recovering.set hw rfl rfl (ht.record _ htally) rfl
  | proceed hw hturn => exact Recovering.set hw rfl rfl (ht.turn htally hturn) rfl
  | finish hw hturn => exact Recovering.set hw rfl rfl (ht.turn htally hturn) rfl
  | panic hw hturn => exact Recovering.set hw rfl rfl (ht.turn htally hturn) rfl
  | recover hw =>
      refine Recovering.set hw rfl rfl (ht.record _ htally) ?_
      simp only [Worker.panics, Event.panics]
      omega
  | die hw hturn =>
      exact Recovering.set hw (bury_workers _ _) (bury_world _ _) (ht.turn htally hturn) rfl
  | submit => exact ⟨recorded, htally⟩
  | refuse => exact ⟨recorded, htally⟩
  | giveUp => exact ⟨recorded, htally⟩
  | close => exact ⟨recorded, htally⟩
  | await => exact ⟨recorded, htally⟩
  | awaitDead => exact ⟨recorded, ht.record .aborted htally⟩
  | leave => exact ⟨recorded, htally⟩

/-- When every worker has ended, as many panics are recorded as jobs ended with. -/
theorem Recovering.ended (h : Recovering tally p) (hend : ∀ w ∈ p.workers, w.isAlive = false) :
    ∃ n, tally p.world n n := by
  obtain ⟨recorded, htally⟩ := h
  have hnone : ∀ w ∈ p.workers, w.panics = 0 := by
    intro w hw
    rcases Worker.ended_iff.mp (hend w hw) with rfl | rfl <;> rfl
  rw [total_eq_zero hnone] at htally
  exact ⟨recorded, htally⟩

end Pool

end Liveness

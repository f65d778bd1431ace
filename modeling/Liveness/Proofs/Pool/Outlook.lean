import Liveness.Proofs.Pool.Custody

/-!
# A pool with one worker

One worker does its jobs one after the other, in the order in which they are submitted. Meanwhile
the owner submits, and as the two threads move the queue fills and drains. But what is left to do
is at every moment the rest of the job in hand, then what is queued, then what is still to be
submitted. To carry all of that out, in this order and without a pause, leads to some world: the
outlook of the pool. No move changes it, and the pool that is through has come to it. So every run
ends in the same world.
-/

namespace Liveness

namespace Pool

variable {J W : Type} {load : Workload J W} {n : Nat} {p q : Pool J W} {jobs : List J}

/-! ## Without a pause -/

section Turns

variable {i : Nat} {job rest : J} {w w' : W}

end Turns

/-! ## The outlook -/

theorem Lifecycle.only {i : Nat} {w : Worker J} (h : Lifecycle 1 p)
    (hw : p.workers[i]? = some w) : i = 0 ∧ p.workers = [w] := by
  obtain ⟨a, ha⟩ := List.length_eq_one_iff.mp h.size
  have hi := (List.getElem?_eq_some_iff.mp hw).1
  obtain rfl : i = 0 := by
    rw [h.size] at hi
    exact Nat.lt_one_iff.mp hi
  rw [ha] at hw ⊢
  obtain rfl := Option.some.inj hw
  exact ⟨rfl, rfl⟩

end Pool

end Liveness

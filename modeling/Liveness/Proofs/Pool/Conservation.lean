import Liveness.Pool.Task
import Liveness.Proofs.Pool.Custody
import Liveness.Proofs.Pool.Opening

/-!
# No job is lost or run twice

The account of a pool at any moment between its start and the end of its owner: where the
accepted jobs are, which of them were taken to their end, what becomes of the next submission,
and when jobs are discarded.
-/

namespace Liveness

namespace Pool

variable {J W : Type} {load : Workload J W} {n : Nat} {p q start : Pool J W} {jobs : List J}
  {res : Resources}

/-- The jobs of a pool with `n` workers, which was like `start` at first, are accounted for. -/
structure Conserved (load : Workload J W) (n : Nat) (start p : Pool J W) : Prop where
  size : p.workers.length = n
  /-- tickets are given out in the order of acceptance -/
  tickets : p.accepted.reverse.map Prod.fst = List.range p.accepted.length
  /-- each ticket is once in one place, and only tickets given out are -/
  placed : ∀ t, p.queued.count t + p.running.count t + p.done.count t + p.discarded.count t
    = if t < p.accepted.length then 1 else 0
  /-- what a worker has in hand is what is left of the accepted job -/
  held : ∀ (i t : Nat) (job : J), p.workers[i]? = some (.busy t job) →
    ∃ start, (t, start) ∈ p.accepted ∧ Remains load start job
  /-- what counts as run was taken to its end by the worker that is named -/
  ran : ∀ a ∈ p.executed, Ran load start p a.1 a.2
  queued : p.queue <:+ p.accepted.reverse
  untaken : p.discarded ++ p.queued <:+ p.accepted.reverse.map Prod.fst
  /-- a submission is refused when all workers have died -/
  refused : ∀ c rest job, p.script = c :: rest → c.job? = some job →
    (∀ w ∈ p.workers, w = .dead) →
    ∃ q, moveOwner load p = some q ∧ q.refused = p.refused + 1 ∧ q.accepted = p.accepted
  /-- and only then -/
  admitted : ∀ c rest job, p.script = c :: rest → c.job? = some job →
    (∃ w ∈ p.workers, w ≠ .dead) →
    ∃ q, moveOwner load p = some q ∧ q.refused = p.refused
      ∧ q.accepted = (p.accepted.length, job) :: p.accepted
  lost : p.discarded ≠ [] → ∀ w ∈ p.workers, w = .dead
  drained : p.isFinished = true → p.queue = [] ∧ p.running = []
  executed : p.isFinished = true → killers load p.accepted < n →
    p.done.Perm (List.range p.accepted.length)

theorem moveOwner_of_refused {c : Command J} {rest : List (Command J)} {job : J}
    (hs : p.script = c :: rest) (hc : c.job? = some job) (ha : p.accepts = false) :
    ∃ q, moveOwner load p = some q ∧ q.refused = p.refused + 1
      ∧ q.accepted = p.accepted := by
  cases c with
  | submit job =>
      refine ⟨{ p with script := rest, refused := p.refused + 1 }, ?_, rfl, rfl⟩
      simp [moveOwner, hs, ha]
  | insist job =>
      refine ⟨{ p with script := [.shutdown], refused := p.refused + 1 }, ?_, rfl, rfl⟩
      simp [moveOwner, hs, ha]
  | shutdown => cases hc

theorem moveOwner_of_accepts {c : Command J} {rest : List (Command J)} {job : J}
    (hs : p.script = c :: rest) (hc : c.job? = some job) (ha : p.accepts = true) :
    moveOwner load p = some (enqueue { p with script := rest } job) := by
  cases c with
  | submit job' =>
      obtain rfl := Option.some.inj hc
      simp only [moveOwner, hs, ha, if_true]
  | insist job' =>
      obtain rfl := Option.some.inj hc
      simp only [moveOwner, hs, ha, if_true]
  | shutdown => cases hc

theorem Sound.conserved (h : Sound load n jobs p)
    (hran : ∀ a ∈ p.executed, Ran load start p a.1 a.2) : Conserved load n start p where
  size := h.lifecycle.size
  tickets := by
    rw [List.map_reverse, h.ledger.tickets, List.reverse_reverse]
  placed := h.ledger.placed
  held := h.custody
  ran := hran
  queued := h.ledger.queue_suffix
  untaken := h.ledger.untaken_suffix
  refused c rest job hs hc hdead := by
    have hopen := h.orderly.isOpen_of_submission hs hc
    exact moveOwner_of_refused hs hc ((h.lifecycle.accepts_eq_false_iff hopen).mpr hdead)
  admitted c rest job hs hc hlive := by
    have hopen := h.orderly.isOpen_of_submission hs hc
    have ha : p.accepts = true := by
      cases hacc : p.accepts with
      | true => rfl
      | false =>
          obtain ⟨w, hw, hne⟩ := hlive
          exact absurd ((h.lifecycle.accepts_eq_false_iff hopen).mp hacc w hw) hne
    refine ⟨_, moveOwner_of_accepts hs hc ha, rfl, ?_⟩
    have hnext := h.ledger.nextTicket_eq
    rw [← hnext]
    rfl
  lost := h.lifecycle.lost_dead
  drained hf :=
    ⟨h.lifecycle.queue_eq_nil (h.ended hf), running_eq_nil (h.ended hf)⟩
  executed hf hk := by
    have hperm := h.done_perm hf (h.threat.exists_ne_dead (by rw [h.lifecycle.size]; exact hk))
    rw [h.ledger.tickets] at hperm
    exact hperm.trans (List.reverse_perm _)

/-- Whatever is submitted to a pool that was started, in whatever way the pool is shut
down, and in whatever order the threads move: its jobs are accounted for at every moment. -/
theorem jobs_conserved {world : W} {pool : Pool J W}
    (hpool : create load n world res = .value pool) {cmds : List (Command J)}
    (hcmds : ∀ c ∈ cmds, c.job?.isSome = true) (finish : Finish)
    (hreach : Reaches load (pool.instruct (cmds ++ finish.commands)) p) :
    Conserved load n (pool.instruct (cmds ++ finish.commands)) p := by
  obtain ⟨-, rfl⟩ := create_eq_value hpool
  have hstart : Sound load n _ _ := sound_ofSize hcmds finish n (load.record (.started n) world)
  exact (hstart.reaches hreach).conserved (hstart.ran hreach).1

/-- Two workers, of which a job kills one; the owner joins, and the other does the rest. -/
theorem jobs_conserved_past_a_death :
    ∃ pool, create Task.load 2 .empty = .value pool ∧
      let start := pool.instruct ([.submit .kills, .submit .returns, .insist .panics]
        ++ Finish.join.commands)
      let p := settle Task.load .inTurn start
      Conserved Task.load 2 start p ∧ p.isFinished = true ∧ p.workers.count .dead = 1
        ∧ p.done.Perm [0, 1, 2] := by
  have hcmds : ∀ c ∈ ([.submit .kills, .submit .returns, .insist .panics] : List (Command Task)),
      c.job?.isSome = true := by decide
  refine ⟨_, rfl, ?_⟩
  intro start p
  have hreach : Reaches Task.load start p := reaches_settle _ _ _
  have hfinished : p.isFinished = true := by decide +kernel
  have hdead : p.workers.count .dead = 1 := by decide +kernel
  have hdone : p.done.Perm [0, 1, 2] := by decide +kernel
  exact ⟨jobs_conserved (rfl : create Task.load 2 .empty = .value _) hcmds .join hreach,
    hfinished, hdead, hdone⟩

end Pool

end Liveness

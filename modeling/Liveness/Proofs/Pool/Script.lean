import Liveness.Proofs.Pool.Ledger

/-!
# What the owner does

An owner submits jobs one after the other and then shuts the pool down, in one of two ways:
it joins the pool, which shuts it down and drops it, or it only drops it. At every moment
its script is what is left of that: submissions first, shutdowns last. Unless a submission
was refused, the jobs accepted so far and those still in the script are all the jobs that
the owner set out to submit, in order.
-/

namespace Liveness

namespace Pool

variable {J W : Type} {load : Workload J W} {n : Nat} {p q : Pool J W} {jobs : List J}

/-- The ways to shut a pool down. Joining it also drops it, and so shuts it down again. -/
inductive Finish where
  | join
  | drop

def Finish.commands : Finish → List (Command J)
  | .join => [.shutdown, .shutdown]
  | .drop => [.shutdown]

/-- The jobs that the owner has still to submit. -/
def pending (p : Pool J W) : List J := p.script.filterMap Command.job?

theorem Command.eq_shutdown_iff {c : Command J} : c = .shutdown ↔ c.job? = none := by
  cases c <;> simp [Command.job?]

/-- After a shutdown there is no submission. -/
def ShutdownsLast (cs : List (Command J)) : Prop :=
  cs.Pairwise fun (a b : Command J) => a = .shutdown → b = .shutdown

structure Orderly (jobs : List J) (p : Pool J W) : Prop where
  sorted : ShutdownsLast p.script
  closed : p.isOpen = false → ∀ c ∈ p.script, c = .shutdown
  closing : p.script ≠ [] → .shutdown ∈ p.script
  through : p.script = [] → p.isOpen = false ∧ p.unjoined = []
  sublist : (p.accepted.reverse.map Prod.snd ++ p.pending).Sublist jobs
  submitted : p.refused = 0 → p.accepted.reverse.map Prod.snd ++ p.pending = jobs

theorem shutdownsLast_append_finish {cmds : List (Command J)}
    (hc : ∀ c ∈ cmds, c.job?.isSome = true) (finish : Finish) :
    ShutdownsLast (cmds ++ finish.commands) := by
  have hfin : ∀ c ∈ (finish.commands : List (Command J)), c = .shutdown := by
    cases finish <;> simp [Finish.commands]
  refine List.pairwise_append.mpr ⟨?_, ?_, ?_⟩
  · refine List.Pairwise.imp_of_mem (R := fun _ _ => True) ?_
      (List.pairwise_of_forall fun _ _ => trivial)
    intro a b ha _ _ heq
    have hsome := hc a ha
    rw [Command.eq_shutdown_iff.mp heq] at hsome
    cases hsome
  · refine List.Pairwise.imp_of_mem (R := fun _ _ => True) ?_
      (List.pairwise_of_forall fun _ _ => trivial)
    intro a b _ hb _ _
    exact hfin b hb
  · intro a _ b hb _
    exact hfin b hb

theorem orderly_ofSize {cmds : List (Command J)} (hc : ∀ c ∈ cmds, c.job?.isSome = true)
    (finish : Finish) (n : Nat) (world : W) :
    Orderly (cmds.filterMap Command.job?) (ofSize n (cmds ++ finish.commands) world) := by
  have hpend : (ofSize n (cmds ++ finish.commands) world).pending
      = cmds.filterMap Command.job? := by
    cases finish <;> simp [pending, ofSize, Finish.commands, Command.job?]
  have hjobs : (ofSize n (cmds ++ finish.commands) world).accepted.reverse.map Prod.snd
      ++ (ofSize n (cmds ++ finish.commands) world).pending = cmds.filterMap Command.job? :=
    hpend
  refine ⟨shutdownsLast_append_finish hc finish, ?_, ?_, ?_, ?_, fun _ => hjobs⟩
  · intro hopen
    cases hopen
  · intro _
    cases finish <;> simp [ofSize, Finish.commands]
  · intro hnil
    cases finish <;> simp [ofSize, Finish.commands] at hnil
  · rw [hjobs]

/-! ## Transitions -/

/-- Nothing changes that concerns the script. -/
theorem Orderly.congr (h : Orderly jobs p) (hs : q.script = p.script)
    (ho : q.isOpen = p.isOpen) (hu : q.unjoined = p.unjoined)
    (ha : q.accepted = p.accepted) (hr : q.refused = p.refused) : Orderly jobs q where
  sorted := by rw [hs]; exact h.sorted
  closed := by rw [hs, ho]; exact h.closed
  closing := by rw [hs]; exact h.closing
  through := by rw [hs, ho, hu]; exact h.through
  sublist := by rw [pending, hs, ha]; exact h.sublist
  submitted := by rw [pending, hs, ha, hr]; exact h.submitted

theorem Orderly.isOpen_of_submission {job : J} {c : Command J} {rest : List (Command J)}
    (h : Orderly jobs p) (hs : p.script = c :: rest) (hc : c.job? = some job) :
    p.isOpen = true := by
  cases ho : p.isOpen with
  | true => rfl
  | false =>
      have hshut := h.closed ho c (by rw [hs]; exact List.mem_cons_self ..)
      rw [Command.eq_shutdown_iff.mp hshut] at hc
      cases hc

theorem Orderly.pending_cons {job : J} {c : Command J} {rest : List (Command J)}
    (hs : p.script = c :: rest) (hc : c.job? = some job) :
    p.pending = job :: rest.filterMap Command.job? := by
  rw [pending, hs, List.filterMap_cons, hc]

/-- The owner has submitted a job, and the others are still to come. -/
theorem Orderly.rest {job : J} {c : Command J} {rest : List (Command J)}
    (h : Orderly jobs p) (hs : p.script = c :: rest) (hc : c.job? = some job) :
    ShutdownsLast rest ∧ .shutdown ∈ rest := by
  have hsorted := h.sorted
  have hclosing := h.closing (by rw [hs]; exact List.cons_ne_nil _ _)
  rw [hs] at hsorted hclosing
  refine ⟨(List.pairwise_cons.mp hsorted).2, ?_⟩
  rcases List.mem_cons.mp hclosing with rfl | hmem
  · cases hc
  · exact hmem

theorem Orderly.enqueue {job : J} {c : Command J} {rest : List (Command J)}
    (h : Orderly jobs p) (hs : p.script = c :: rest) (hc : c.job? = some job) :
    Orderly jobs (enqueue { p with script := rest } job) := by
  obtain ⟨hsorted, hshut⟩ := h.rest hs hc
  have hopen := h.isOpen_of_submission hs hc
  have hjobs : (Pool.enqueue { p with script := rest } job).accepted.reverse.map Prod.snd
      ++ (Pool.enqueue { p with script := rest } job).pending
        = p.accepted.reverse.map Prod.snd ++ p.pending := by
    rw [Orderly.pending_cons hs hc]
    simp [Pool.enqueue, pending]
  refine ⟨hsorted, ?_, fun _ => hshut, ?_, ?_, ?_⟩
  · intro ho
    exact absurd (hopen.symm.trans ho) (by decide)
  · intro hnil
    rw [show rest = [] from hnil] at hshut
    cases hshut
  · rw [hjobs]
    exact h.sublist
  · intro hr
    rw [hjobs]
    exact h.submitted hr

theorem Orderly.refuse {job : J} {c : Command J} {rest rest' : List (Command J)}
    (h : Orderly jobs p) (hs : p.script = c :: rest) (hc : c.job? = some job)
    (hsorted : ShutdownsLast rest')
    (hshut : .shutdown ∈ rest') (hsub : rest'.Sublist rest) :
    Orderly jobs { p with script := rest', refused := p.refused + 1 } := by
  have hopen := h.isOpen_of_submission hs hc
  refine ⟨hsorted, ?_, fun _ => hshut, ?_, ?_, ?_⟩
  · intro ho
    exact absurd (hopen.symm.trans ho) (by decide)
  · intro hnil
    rw [show rest' = [] from hnil] at hshut
    cases hshut
  · refine List.Sublist.trans ?_ h.sublist
    refine List.Sublist.append_left ?_ _
    rw [Orderly.pending_cons hs hc]
    exact (hsub.filterMap _).trans (List.sublist_cons_self _ _)
  · intro hr
    cases hr

theorem Orderly.close {rest : List (Command J)} (h : Orderly jobs p)
    (hs : p.script = .shutdown :: rest) : Orderly jobs { p with isOpen := false } := by
  refine { h with closed := ?_, through := ?_ }
  · intro _ c hc
    have hsorted := h.sorted
    rw [hs] at hsorted hc
    rcases List.mem_cons.mp hc with rfl | hc
    · rfl
    · exact (List.pairwise_cons.mp hsorted).1 c hc rfl
  · intro hnil
    rw [hs] at hnil
    cases hnil

theorem Orderly.leave {rest : List (Command J)} (h : Orderly jobs p)
    (hs : p.script = .shutdown :: rest) (ho : p.isOpen = false) (hu : p.unjoined = []) :
    Orderly jobs { p with script := rest } := by
  have hrest : ∀ c ∈ rest, c = .shutdown := fun c hc =>
    h.closed ho c (by rw [hs]; exact List.mem_cons_of_mem _ hc)
  have hsorted := h.sorted
  rw [hs] at hsorted
  have hpend : p.pending = rest.filterMap Command.job? := by
    rw [pending, hs]
    rfl
  refine ⟨(List.pairwise_cons.mp hsorted).2, fun _ => hrest, ?_, fun _ => ⟨ho, hu⟩, ?_, ?_⟩
  · intro hne
    obtain ⟨c, hc⟩ := List.exists_mem_of_ne_nil rest hne
    exact hrest c hc ▸ hc
  · have hsub := h.sublist
    rw [hpend] at hsub
    exact hsub
  · intro hr
    have hjobs := h.submitted hr
    rw [hpend] at hjobs
    exact hjobs

theorem Orderly.await {rest : List (Command J)} {others : List Nat} (h : Orderly jobs p)
    (hs : p.script = .shutdown :: rest) (world : W) :
    Orderly jobs { p with unjoined := others, world } := by
  refine { h with through := ?_ }
  intro hnil
  rw [hs] at hnil
  cases hnil

theorem Orderly.step (h : Orderly jobs p) (ht : Transition load p q) : Orderly jobs q := by
  cases ht with
  | take => exact { h with }
  | stop => exact { h with }
  | proceed => exact { h with }
  | finish => exact { h with }
  | panic => exact { h with }
  | recover => exact { h with }
  | die => exact h.congr (by simp) (by simp) (by simp) (by simp) (by simp)
  | submit hs =>
      rcases hs with hs | hs
      · exact h.enqueue hs rfl
      · exact h.enqueue hs rfl
  | refuse hs =>
      obtain ⟨hsorted, hshut⟩ := h.rest hs rfl
      exact h.refuse hs rfl hsorted hshut (List.Sublist.refl _)
  | giveUp hs =>
      obtain ⟨-, hshut⟩ := h.rest hs rfl
      exact h.refuse hs rfl (List.pairwise_singleton _ _) (List.mem_singleton.mpr rfl)
        (List.singleton_sublist.mpr hshut)
  | close hs => exact h.close hs
  | await hs => exact h.await hs _
  | awaitDead hs => exact h.await hs _
  | leave hs ho hu => exact h.leave hs ho hu

end Pool

end Liveness

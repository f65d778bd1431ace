import Liveness.Pool.Machine

/-!
# The transitions of a pool

A move of a pool is one of a small number of transitions: a worker takes a job, makes a
turn, recovers, stops or dies; the owner submits, closes the queue or awaits a worker. The
inductive `Transition` lists them with their conditions, and every invariant of the pool is
proved by cases on it, once for each transition and never by unfolding the moves again.
-/

namespace Liveness

namespace Pool

variable {J W : Type}

/-- The job that a command submits. -/
def Command.job? : Command J → Option J
  | .submit job => some job
  | .insist job => some job
  | .shutdown => none

/-- What one move can do to the pool `p`. -/
inductive Transition (load : Workload J W) (p : Pool J W) : Pool J W → Prop where
  | take {i ticket : Nat} {job : J} {rest : List (Nat × J)}
      (hw : p.workers[i]? = some .idle) (hq : p.queue = (ticket, job) :: rest) :
      Transition load p
        { p with queue := rest, workers := p.workers.set i (.busy ticket job) }
  /-- a worker ends because the queue is closed and empty -/
  | stop {i : Nat} (hw : p.workers[i]? = some .idle) (hq : p.queue = [])
      (ho : p.isOpen = false) :
      Transition load p { p with
        workers := p.workers.set i .stopped
        world := load.record (.stopped i) p.world }
  | proceed {i ticket : Nat} {job rest : J} {world : W}
      (hw : p.workers[i]? = some (.busy ticket job))
      (ht : load.turn i job p.world = some (.more rest, world)) :
      Transition load p { p with world, workers := p.workers.set i (.busy ticket rest) }
  | finish {i ticket : Nat} {job : J} {world : W}
      (hw : p.workers[i]? = some (.busy ticket job))
      (ht : load.turn i job p.world = some (.finished, world)) :
      Transition load p { p with
        world
        workers := p.workers.set i .idle
        executed := (ticket, i) :: p.executed }
  | panic {i ticket : Nat} {job : J} {world : W}
      (hw : p.workers[i]? = some (.busy ticket job))
      (ht : load.turn i job p.world = some (.panicked, world)) :
      Transition load p { p with world, workers := p.workers.set i (.caught ticket) }
  /-- a worker records a panic and goes on -/
  | recover {i ticket : Nat} (hw : p.workers[i]? = some (.caught ticket)) :
      Transition load p { p with
        workers := p.workers.set i .idle
        world := load.record (.jobPanicked i) p.world
        executed := (ticket, i) :: p.executed }
  | die {i ticket : Nat} {job : J} {world : W}
      (hw : p.workers[i]? = some (.busy ticket job))
      (ht : load.turn i job p.world = some (.fatal, world)) :
      Transition load p
        (bury { p with world, executed := (ticket, i) :: p.executed } i)
  | submit {job : J} {rest : List (Command J)}
      (hs : p.script = .submit job :: rest ∨ p.script = .insist job :: rest)
      (ha : p.accepts = true) :
      Transition load p (enqueue { p with script := rest } job)
  | refuse {job : J} {rest : List (Command J)} (hs : p.script = .submit job :: rest)
      (ha : p.accepts = false) :
      Transition load p { p with script := rest, refused := p.refused + 1 }
  /-- the owner is refused and does no more than shut the pool down -/
  | giveUp {job : J} {rest : List (Command J)} (hs : p.script = .insist job :: rest)
      (ha : p.accepts = false) :
      Transition load p { p with script := [.shutdown], refused := p.refused + 1 }
  | close {rest : List (Command J)} (hs : p.script = .shutdown :: rest)
      (ho : p.isOpen = true) :
      Transition load p { p with isOpen := false }
  | await {i : Nat} {others : List Nat} {rest : List (Command J)}
      (hs : p.script = .shutdown :: rest) (ho : p.isOpen = false)
      (hu : p.unjoined = i :: others) (hw : p.workers[i]? = some .stopped) :
      Transition load p { p with unjoined := others }
  | awaitDead {i : Nat} {others : List Nat} {rest : List (Command J)}
      (hs : p.script = .shutdown :: rest) (ho : p.isOpen = false)
      (hu : p.unjoined = i :: others) (hw : p.workers[i]? = some .dead) :
      Transition load p { p with unjoined := others, world := load.record .aborted p.world }
  /-- all workers have been awaited -/
  | leave {rest : List (Command J)} (hs : p.script = .shutdown :: rest)
      (ho : p.isOpen = false) (hu : p.unjoined = []) :
      Transition load p { p with script := rest }

theorem transition_of_moveWorker {load : Workload J W} {i : Nat} {p q : Pool J W}
    (h : moveWorker load i p = some q) : Transition load p q := by
  unfold moveWorker at h
  split at h
  · contradiction
  · contradiction
  · contradiction
  · rename_i hw
    split at h
    · rename_i hq
      obtain rfl := Option.some.inj h
      exact .take hw hq
    · rename_i hq
      split at h
      · contradiction
      · rename_i ho
        obtain rfl := Option.some.inj h
        exact .stop hw hq (by simpa using ho)
  · rename_i hw
    obtain rfl := Option.some.inj h
    exact .recover hw
  · rename_i hw
    split at h
    · contradiction
    · rename_i ht
      obtain rfl := Option.some.inj h
      exact .proceed hw ht
    · rename_i ht
      obtain rfl := Option.some.inj h
      exact .finish hw ht
    · rename_i ht
      obtain rfl := Option.some.inj h
      exact .panic hw ht
    · rename_i ht
      obtain rfl := Option.some.inj h
      exact .die hw ht

theorem transition_of_moveOwner {load : Workload J W} {p q : Pool J W}
    (h : moveOwner load p = some q) : Transition load p q := by
  unfold moveOwner at h
  split at h
  · contradiction
  · rename_i hs
    split at h
    · rename_i ha
      obtain rfl := Option.some.inj h
      exact .submit (.inl hs) ha
    · rename_i ha
      obtain rfl := Option.some.inj h
      exact .refuse hs (by simpa using ha)
  · rename_i hs
    split at h
    · rename_i ha
      obtain rfl := Option.some.inj h
      exact .submit (.inr hs) ha
    · rename_i ha
      obtain rfl := Option.some.inj h
      exact .giveUp hs (by simpa using ha)
  · rename_i hs
    split at h
    · rename_i ho
      obtain rfl := Option.some.inj h
      exact .close hs ho
    · rename_i ho
      have ho : p.isOpen = false := by simpa using ho
      split at h
      · rename_i hu
        obtain rfl := Option.some.inj h
        exact .leave hs ho hu
      · rename_i hu
        split at h
        · rename_i hw
          obtain rfl := Option.some.inj h
          exact .await hs ho hu hw
        · rename_i hw
          obtain rfl := Option.some.inj h
          exact .awaitDead hs ho hu hw
        · contradiction

/-- Every move is one of the transitions. -/
theorem transition_of_step {load : Workload J W} {p q : Pool J W} (h : Step load p q) :
    Transition load p q := by
  cases h with
  | worker i h => exact transition_of_moveWorker h
  | owner h => exact transition_of_moveOwner h

/-- What holds at first and is kept by every transition holds ever after. -/
theorem Reaches.keep {load : Workload J W} {I : Pool J W → Prop} {p q : Pool J W}
    (h : Reaches load p q) (hp : I p)
    (hkeep : ∀ {r r'}, I r → Transition load r r' → I r') : I q := by
  induction h with
  | refl => exact hp
  | next _ hstep ih => exact hkeep ih (transition_of_step hstep)

end Pool

end Liveness

import Liveness.Proofs.Pool.Script

/-!
# Deaths and progress

A worker dies only of a job that may kill, and of each such job at most one worker dies.
So a pool with more workers than accepted jobs of that kind never loses its last worker.

A pool comes to rest only when its owner is through, or when some job waits for something
that no thread will bring about.
-/

namespace Liveness

namespace Pool

variable {J W : Type} {load : Workload J W} {n : Nat} {p q : Pool J W} {jobs : List J}

/-- Some course of the job, in some world, ends its worker. -/
inductive MayKill (load : Workload J W) : J → Prop where
  | now {worker : Nat} {job : J} {world world' : W} :
      load.turn worker job world = some (.fatal, world') → MayKill load job
  | later {worker : Nat} {job rest : J} {world world' : W} :
      load.turn worker job world = some (.more rest, world') → MayKill load rest →
      MayKill load job

open Classical in
/-- How many of the jobs may kill. -/
noncomputable def killers (load : Workload J W) (as : List (Nat × J)) : Nat :=
  as.countP fun a => decide (MayKill load a.2)

open Classical in
/-- One for a worker that is dead or has a job in hand that may kill it. -/
noncomputable def Worker.threat (load : Workload J W) : Worker J → Nat
  | .busy _ job => if MayKill load job then 1 else 0
  | .dead => 1
  | _ => 0

theorem killers_cons_add (t : Nat) (job : J) (as : List (Nat × J)) :
    killers load ((t, job) :: as) = killers load as + (Worker.busy t job).threat load := by
  by_cases hk : MayKill load job <;> simp [killers, Worker.threat, hk]

theorem killers_append (as bs : List (Nat × J)) :
    killers load (as ++ bs) = killers load as + killers load bs :=
  List.countP_append

/-- Dead workers, and jobs not yet ended that may kill, stem from different accepted jobs. -/
def ThreatBounded (load : Workload J W) (p : Pool J W) : Prop :=
  total (Worker.threat load) p.workers + killers load p.queue ≤ killers load p.accepted

theorem threatBounded_ofSize (n : Nat) (script : List (Command J)) (world : W) :
    ThreatBounded load (ofSize n script world) := by
  simp [ThreatBounded, ofSize, Worker.threat, killers]

theorem threat_le_of_more {i t : Nat} {job rest : J} {world world' : W}
    (ht : load.turn i job world = some (.more rest, world')) :
    (Worker.busy t rest).threat load ≤ (Worker.busy t job).threat load := by
  simp only [Worker.threat]
  by_cases hk : MayKill load rest
  · refine Nat.le_of_eq ?_
    rw [if_pos hk, if_pos (.later ht hk)]
  · rw [if_neg hk]
    exact Nat.zero_le _

theorem ThreatBounded.set {i : Nat} {a b : Worker J} (h : ThreatBounded load p)
    (hw : p.workers[i]? = some a) (hab : b.threat load ≤ a.threat load)
    (hws : q.workers = p.workers.set i b) (hq : killers load q.queue ≤ killers load p.queue)
    (ha : q.accepted = p.accepted) : ThreatBounded load q := by
  have hset := total_set (Worker.threat load) b hw
  simp only [ThreatBounded] at h ⊢
  rw [hws, ha]
  omega

theorem ThreatBounded.take {i ticket : Nat} {job : J} {rest : List (Nat × J)}
    (h : ThreatBounded load p) (hw : p.workers[i]? = some .idle)
    (hq : p.queue = (ticket, job) :: rest) :
    ThreatBounded load
      { p with queue := rest, workers := p.workers.set i (.busy ticket job) } := by
  have hset := total_set (Worker.threat load) (.busy ticket job) hw
  have hidle : (Worker.idle : Worker J).threat load = 0 := rfl
  simp only [ThreatBounded, hq, killers_cons_add] at h ⊢
  omega

theorem ThreatBounded.die {i ticket : Nat} {job : J} {world : W}
    (h : ThreatBounded load p) (hw : p.workers[i]? = some (.busy ticket job))
    (ht : load.turn i job p.world = some (.fatal, world)) :
    ThreatBounded load (bury { p with world, executed := (ticket, i) :: p.executed } i) := by
  refine h.set (b := .dead) hw ?_ (bury_workers _ i) ?_ (bury_accepted _ i)
  · simp only [Worker.threat, if_pos (MayKill.now ht), Nat.le_refl]
  · rcases bury_queue_cases { p with world, executed := (ticket, i) :: p.executed } i
      with ⟨hq, -⟩ | ⟨hq, -⟩
    · exact Nat.le_of_eq (congrArg _ hq)
    · rw [hq]
      exact Nat.zero_le _

theorem ThreatBounded.enqueue (h : ThreatBounded load p) (job : J) :
    ThreatBounded load (enqueue p job) := by
  simp only [ThreatBounded, Pool.enqueue, killers_append, killers_cons_add] at h ⊢
  have hnil : killers load [] = 0 := rfl
  omega

theorem ThreatBounded.step (h : ThreatBounded load p) (ht : Transition load p q) :
    ThreatBounded load q := by
  cases ht with
  | take hw hq => exact h.take hw hq
  | stop hw => exact h.set hw (Nat.zero_le _) rfl (Nat.le_refl _) rfl
  | proceed hw ht => exact h.set hw (threat_le_of_more ht) rfl (Nat.le_refl _) rfl
  | finish hw => exact h.set hw (Nat.zero_le _) rfl (Nat.le_refl _) rfl
  | panic hw => exact h.set hw (Nat.zero_le _) rfl (Nat.le_refl _) rfl
  | recover hw => exact h.set hw (Nat.zero_le _) rfl (Nat.le_refl _) rfl
  | die hw ht => exact h.die hw ht
  | @submit job rest => exact ThreatBounded.enqueue (p := { p with script := rest }) h job
  | refuse => exact h
  | giveUp => exact h
  | close => exact h
  | await => exact h
  | awaitDead => exact h
  | leave => exact h

/-- With fewer accepted killers than workers, some worker is not dead. -/
theorem ThreatBounded.exists_ne_dead (h : ThreatBounded load p)
    (hk : killers load p.accepted < p.workers.length) : ∃ w ∈ p.workers, w ≠ .dead := by
  by_cases hall : ∀ w ∈ p.workers, w = .dead
  · have hrep := List.eq_replicate_of_mem hall
    simp only [ThreatBounded] at h
    rw [hrep] at h
    simp only [total_replicate, Worker.threat] at h
    omega
  · simpa using hall

/-- Where no accepted job may kill, no worker is dead. -/
theorem ThreatBounded.not_dead (h : ThreatBounded load p)
    (hk : ∀ a ∈ p.accepted, ¬ MayKill load a.2) : .dead ∉ p.workers := by
  intro hdead
  have hzero : killers load p.accepted = 0 :=
    List.countP_eq_zero.mpr fun a ha => by simpa using hk a ha
  obtain ⟨i, hw⟩ := List.mem_iff_getElem?.mp hdead
  have hset := total_set (Worker.threat load) .idle hw
  simp only [Worker.threat] at hset
  simp only [ThreatBounded, hzero] at h
  omega

/-! ## Refusals -/

theorem eq_dead_of_all {i : Nat} {a : Worker J} (hall : ∀ w ∈ p.workers, w = .dead)
    (hw : p.workers[i]? = some a) : a = .dead :=
  hall a (List.mem_of_getElem? hw)

/-- A submission is refused only when all workers have died. -/
def RefusedByDead (p : Pool J W) : Prop :=
  p.refused ≠ 0 → ∀ w ∈ p.workers, w = .dead

theorem RefusedByDead.step (h : RefusedByDead p) (hl : Lifecycle n p) (ho : Orderly jobs p)
    (ht : Transition load p q) : RefusedByDead q := by
  cases ht with
  | take hw => intro hr; cases eq_dead_of_all (h hr) hw
  | stop hw => intro hr; cases eq_dead_of_all (h hr) hw
  | proceed hw => intro hr; cases eq_dead_of_all (h hr) hw
  | finish hw => intro hr; cases eq_dead_of_all (h hr) hw
  | panic hw => intro hr; cases eq_dead_of_all (h hr) hw
  | recover hw => intro hr; cases eq_dead_of_all (h hr) hw
  | die hw =>
      intro hr
      rw [bury_refused] at hr
      cases eq_dead_of_all (h hr) hw
  | submit => exact h
  | refuse hs ha =>
      intro _
      exact (hl.accepts_eq_false_iff (ho.isOpen_of_submission hs rfl)).mp ha
  | giveUp hs ha =>
      intro _
      exact (hl.accepts_eq_false_iff (ho.isOpen_of_submission hs rfl)).mp ha
  | close => exact h
  | await => exact h
  | awaitDead => exact h
  | leave => exact h

/-! ## Coming to rest -/

theorem exists_moveWorker {i : Nat} {w : Worker J} (hw : p.workers[i]? = some w)
    (ha : w.isAlive = true) (ho : p.isOpen = false)
    (hb : ∀ t job, w = .busy t job → load.turn i job p.world ≠ none) :
    ∃ q, moveWorker load i p = some q := by
  cases w with
  | stopped => cases ha
  | dead => cases ha
  | caught t =>
      unfold moveWorker
      rw [hw]
      exact ⟨_, rfl⟩
  | idle =>
      unfold moveWorker
      rw [hw]
      cases hq : p.queue with
      | nil => exact ⟨_, by rw [ho]; rfl⟩
      | cons a rest => exact ⟨_, rfl⟩
  | busy t job =>
      cases ht : load.turn i job p.world with
      | none => exact absurd ht (hb t job rfl)
      | some r =>
          obtain ⟨turn, world⟩ := r
          simp only [moveWorker, hw, ht]
          cases turn <;> exact ⟨_, rfl⟩

/-- An owner that is not through can move, unless it awaits a worker that lives. -/
theorem Lifecycle.owner_cases (h : Lifecycle n p) (hf : p.isFinished = false) :
    (∃ q, moveOwner load p = some q)
      ∨ p.isOpen = false
        ∧ ∃ (i : Nat) (w : Worker J), p.workers[i]? = some w ∧ w.isAlive = true := by
  cases hs : p.script with
  | nil => simp [isFinished, hs] at hf
  | cons c rest =>
      cases c with
      | submit job =>
          left
          unfold moveOwner
          rw [hs]
          dsimp only
          split <;> exact ⟨_, rfl⟩
      | insist job =>
          left
          unfold moveOwner
          rw [hs]
          dsimp only
          split <;> exact ⟨_, rfl⟩
      | shutdown =>
          cases ho : p.isOpen with
          | true => exact .inl ⟨_, by simp only [moveOwner, hs, ho]; rfl⟩
          | false =>
              cases hu : p.unjoined with
              | nil => exact .inl ⟨_, by simp only [moveOwner, hs, ho, hu]; rfl⟩
              | cons i others =>
                  have hi : i < p.workers.length := by
                    rw [h.size]
                    exact h.unjoined_lt (by rw [hu]; exact List.mem_cons_self ..)
                  have hw := List.getElem?_eq_getElem hi
                  cases hwi : p.workers[i] with
                  | stopped =>
                      rw [hwi] at hw
                      exact .inl ⟨_, by simp only [moveOwner, hs, ho, hu, hw]; rfl⟩
                  | dead =>
                      rw [hwi] at hw
                      exact .inl ⟨_, by simp only [moveOwner, hs, ho, hu, hw]; rfl⟩
                  | idle => exact .inr ⟨rfl, i, .idle, by rw [hw, hwi], rfl⟩
                  | busy t job => exact .inr ⟨rfl, i, .busy t job, by rw [hw, hwi], rfl⟩
                  | caught t => exact .inr ⟨rfl, i, .caught t, by rw [hw, hwi], rfl⟩

/-- Where no job ever waits, a pool rests only when its owner is through. -/
theorem Lifecycle.exists_step (h : Lifecycle n p) (hf : p.isFinished = false)
    (hnow : ∀ i job world, load.turn i job world ≠ none) : ∃ q, Step load p q := by
  rcases h.owner_cases hf with ⟨q, hq⟩ | ⟨ho, i, w, hw, ha⟩
  · exact ⟨q, .owner hq⟩
  · obtain ⟨q, hq⟩ := exists_moveWorker hw ha ho fun _ job _ => hnow i job p.world
    exact ⟨q, .worker i hq⟩

/-- When every worker has ended and the owner is through, no thread can move. -/
theorem quiet_of_ended (hend : ∀ w ∈ p.workers, w.isAlive = false)
    (hf : p.isFinished = true) : Quiet load p := by
  intro q hq
  cases hq with
  | worker i hm =>
      unfold moveWorker at hm
      split at hm
      · contradiction
      · contradiction
      · contradiction
      all_goals
        rename_i hw
        have := hend _ (List.mem_of_getElem? hw)
        cases this
  | owner hm =>
      unfold moveOwner at hm
      rw [List.isEmpty_iff.mp hf] at hm
      contradiction

end Pool

end Liveness

import Mathlib.Data.List.Count
import Liveness.Proofs.Pool.Gathering
import Liveness.Proofs.Pool.Shutdown

/-!
# What a pool records

The log of a pool accounts for its jobs and its workers. A worker records each panic that it
catches, and that it stops; a worker that a job has ended records nothing, and the owner does so
when it finds it dead. So when the owner is through, the log holds the start of the pool, the
panics that were caught, and one end of each worker.

The threads write in any order, and so the log is settled only up to its order. What settles it
is how often each notice is there: at every moment that is told by the jobs that have run, the
workers that have stopped, and the dead among those that the owner has awaited. The owner awaits
the workers by number, and a worker that it has awaited changes no more.
-/

namespace Liveness

open Pool

/-- What a pool records of its workers. -/
def Notice.isOfWorker : Notice → Bool
  | .jobPanicked _ => true
  | .workerStopped _ => true
  | .workerAborted => true
  | _ => false

/-- Only the pool records anything. -/
theorem Task.turn_notices {i : Nat} {task : Task} {turn : Turn Task} {board board' : Task.Board}
    (ht : Task.load.turn i task board = some (turn, board')) : board'.notices = board.notices := by
  rcases Task.turn_cases ht with ⟨id, _, -, -, rfl⟩ | ⟨-, -, rfl⟩
  · rfl
  · rfl

namespace Pool

variable {n : Nat} {board : Task.Board} {jobs : List Task} {p q : Pool Task Task.Board}

/-- The workers of the jobs whose panics were caught, one entry for each job. -/
def recovered (p : Pool Task Task.Board) : List Nat :=
  p.executed.filterMap fun e => if p.jobOf? e.1 = some .panics then some e.2 else none

/-- The workers that no job has ended. -/
def survivors (p : Pool Task Task.Board) : List Nat :=
  (List.range p.size).filter fun i => .kills ∉ p.ranOn i

/-- The workers that a job has ended. -/
def killed (p : Pool Task Task.Board) : List Nat :=
  (List.range p.size).filter fun i => .kills ∈ p.ranOn i

/-- What a pool has to record of itself, its jobs and its workers. -/
def account (p : Pool Task Task.Board) : List Notice :=
  .poolStarted p.size :: (p.recovered.map .jobPanicked ++ p.survivors.map .workerStopped
    ++ List.replicate p.killed.length .workerAborted)

theorem length_survivors_add_killed (p : Pool Task Task.Board) :
    p.survivors.length + p.killed.length = p.size := by
  have hperm := List.filter_append_perm (fun i => decide (.kills ∉ p.ranOn i)) (List.range p.size)
  have hlen := hperm.length_eq
  rw [List.length_append, List.length_range] at hlen
  simpa [survivors, killed] using hlen

/-! ## Counting the records -/

/-- What is recorded at some moment, beyond what is on `board`. -/
structure Records (n : Nat) (board : Task.Board) (p : Pool Task Task.Board) : Prop where
  since : board.notices <:+ p.world.notices
  stopped : ∀ i, p.world.notices.count (.workerStopped i)
    = board.notices.count (.workerStopped i) + if p.workers[i]? = some .stopped then 1 else 0
  /-- the owner has awaited the first `k` workers and found some of them dead -/
  aborted : ∃ k, p.unjoined = (List.range n).drop k ∧
    p.world.notices.count .workerAborted
      = board.notices.count .workerAborted + (p.workers.take k).count .dead
  others : ∀ a : Notice, a.isOfWorker = false →
    p.world.notices.count a = board.notices.count a + if a = .poolStarted n then 1 else 0

/-- The workers that the owner has awaited are not those that still change. -/
theorem Lifecycle.take_set {J W : Type} {p : Pool J W} {i k : Nat} {a : Worker J}
    (h : Lifecycle n p) (hw : p.workers[i]? = some a) (ha : a.isAlive = true)
    (hu : p.unjoined = (List.range n).drop k) (b : Worker J) :
    (p.workers.set i b).take k = p.workers.take k := by
  have hmem : i ∈ p.unjoined := by
    rcases h.awaited hw with hmem | hend
    · exact hmem
    · rw [ha] at hend
      cases hend
  obtain ⟨m, hm⟩ := List.mem_iff_getElem?.mp (hu ▸ hmem)
  rw [List.getElem?_drop] at hm
  obtain ⟨hlt, hi⟩ := List.getElem?_eq_some_iff.mp hm
  rw [List.getElem_range] at hi
  exact List.take_set_of_le (by omega)

/-- A worker takes a new state, without a record. -/
theorem Records.set {i : Nat} {a b : Worker Task} (h : Records n board p) (hl : Lifecycle n p)
    (hw : p.workers[i]? = some a) (ha : a.isAlive = true) (hb : b ≠ .stopped)
    (hws : q.workers = p.workers.set i b) (hu : q.unjoined = p.unjoined)
    (hworld : q.world.notices = p.world.notices) : Records n board q where
  since := by
    rw [hworld]
    exact h.since
  stopped j := by
    have hiff : q.workers[j]? = some .stopped ↔ p.workers[j]? = some .stopped := by
      rw [hws]
      constructor
      · intro hj
        rcases getElem?_set_cases hj with ⟨-, hj⟩ | ⟨-, hj⟩
        · exact absurd hj.symm hb
        · exact hj
      · intro hj
        by_cases hij : i = j
        · subst hij
          obtain rfl := Option.some.inj (hw.symm.trans hj)
          cases ha
        · rw [List.getElem?_set_ne hij]
          exact hj
    rw [hworld, h.stopped j]
    simp only [hiff]
  aborted := by
    obtain ⟨k, hk, hcount⟩ := h.aborted
    refine ⟨k, hu.trans hk, ?_⟩
    rw [hworld, hws, hl.take_set hw ha hk]
    exact hcount
  others a ha := by
    rw [hworld]
    exact h.others a ha

theorem Records.congr (h : Records n board p) (hws : q.workers = p.workers)
    (hu : q.unjoined = p.unjoined) (hworld : q.world = p.world) : Records n board q where
  since := by rw [hworld]; exact h.since
  stopped := by rw [hworld, hws]; exact h.stopped
  aborted := by rw [hworld, hws, hu]; exact h.aborted
  others := by rw [hworld]; exact h.others

/-- A worker records a panic that it has caught. -/
theorem Records.caught (h : Records n board p) (i : Nat) :
    Records n board { p with world := Task.load.record (.jobPanicked i) p.world } where
  since := h.since.trans (List.suffix_cons _ _)
  stopped j := by
    rw [← h.stopped j]
    exact List.count_cons_of_ne (by rintro ⟨⟩)
  aborted := by
    obtain ⟨k, hk, hcount⟩ := h.aborted
    refine ⟨k, hk, ?_⟩
    rw [← hcount]
    exact List.count_cons_of_ne (by rintro ⟨⟩)
  others a ha := by
    rw [← h.others a ha]
    exact List.count_cons_of_ne (by rintro rfl; cases ha)

theorem Records.stop {i : Nat} (h : Records n board p) (hl : Lifecycle n p)
    (hw : p.workers[i]? = some .idle) :
    Records n board { p with
      workers := p.workers.set i .stopped, world := Task.load.record (.stopped i) p.world } where
  since := h.since.trans (List.suffix_cons _ _)
  stopped j := by
    have hi : i < p.workers.length := (List.getElem?_eq_some_iff.mp hw).1
    have hj := h.stopped j
    by_cases hij : i = j
    · subst hij
      simp only [hw, reduceCtorEq, Option.some.injEq, if_false] at hj
      simp [Task.load, Task.Board.record, Notice.ofPool, hj, hi]
    · simp only [List.getElem?_set_ne hij, ← hj]
      exact List.count_cons_of_ne (by rintro ⟨⟩; exact hij rfl)
  aborted := by
    obtain ⟨k, hk, hcount⟩ := h.aborted
    refine ⟨k, hk, ?_⟩
    rw [hl.take_set hw rfl hk, ← hcount]
    exact List.count_cons_of_ne (by rintro ⟨⟩)
  others a ha := by
    rw [← h.others a ha]
    exact List.count_cons_of_ne (by rintro rfl; cases ha)

/-- The owner goes on to the next worker, and records that it is dead if it is. -/
theorem Records.await {i : Nat} {others : List Nat} {a : Worker Task} {world : Task.Board}
    (h : Records n board p) (hu : p.unjoined = i :: others) (hw : p.workers[i]? = some a)
    (hworld : world.notices
      = (if a = .dead then [.workerAborted] else []) ++ p.world.notices) :
    Records n board { p with unjoined := others, world } := by
  obtain ⟨k, hk, hcount⟩ := h.aborted
  obtain ⟨rfl, rfl⟩ : i = k ∧ others = (List.range n).drop (k + 1) := by
    have hlt : k < (List.range n).length := by
      by_contra hle
      rw [hu, List.drop_eq_nil_of_le (Nat.not_lt.mp hle)] at hk
      cases hk
    rw [hu, List.drop_eq_getElem_cons hlt, List.getElem_range] at hk
    exact List.cons.inj hk
  have hnew : ∀ b : Notice, b ≠ .workerAborted →
      world.notices.count b = p.world.notices.count b := by
    intro b hb
    rw [hworld, List.count_append]
    split
    · rw [List.count_singleton, if_neg (by simpa using hb.symm), Nat.zero_add]
    · rw [List.count_nil, Nat.zero_add]
  refine ⟨?_, ?_, ⟨i + 1, rfl, ?_⟩, ?_⟩
  · rw [hworld]
    exact h.since.trans (List.suffix_append _ _)
  · intro j
    rw [hnew _ (by rintro ⟨⟩)]
    exact h.stopped j
  · rw [hworld, List.count_append, hcount, List.take_add_one, hw, List.count_append]
    by_cases ha : a = .dead
    · simp [ha]
      omega
    · simp [ha]
  · intro b hb
    rw [hnew b (by rintro rfl; cases hb)]
    exact h.others b hb

theorem Records.step (h : Records n board p) (hl : Lifecycle n p)
    (ht : Transition Task.load p q) : Records n board q := by
  cases ht with
  | take hw => exact h.set hl hw rfl (by rintro ⟨⟩) rfl rfl rfl
  | stop hw => exact h.stop hl hw
  | proceed hw ht => exact h.set hl hw rfl (by rintro ⟨⟩) rfl rfl (Task.turn_notices ht)
  | finish hw ht => exact h.set hl hw rfl (by rintro ⟨⟩) rfl rfl (Task.turn_notices ht)
  | panic hw ht => exact h.set hl hw rfl (by rintro ⟨⟩) rfl rfl (Task.turn_notices ht)
  | @recover i t hw =>
      have hidle := h.set (b := .idle)
        (q := { p with workers := p.workers.set i .idle, executed := (t, i) :: p.executed })
        hl hw rfl (by rintro ⟨⟩) rfl rfl rfl
      exact hidle.caught i
  | die hw ht =>
      refine h.set hl hw rfl (b := .dead) (by rintro ⟨⟩) (bury_workers _ _) (bury_unjoined _ _) ?_
      rw [bury_world]
      exact Task.turn_notices ht
  | submit => exact h.congr rfl rfl rfl
  | refuse => exact h.congr rfl rfl rfl
  | giveUp => exact h.congr rfl rfl rfl
  | close => exact h.congr rfl rfl rfl
  | await _ _ hu hw => exact h.await hu hw rfl
  | awaitDead _ _ hu hw => exact h.await hu hw rfl
  | leave => exact h.congr rfl rfl rfl

/-! ## The account -/

theorem count_account_jobPanicked (p : Pool Task Task.Board) (i : Nat) :
    p.account.count (.jobPanicked i) = p.recovered.count i := by
  have hmap := List.count_map_of_injective p.recovered Notice.jobPanicked (by rintro _ _ ⟨⟩; rfl) i
  have hstopped : (p.survivors.map Notice.workerStopped).count (.jobPanicked i) = 0 :=
    List.count_eq_zero.mpr (by simp)
  simp [account, List.count_replicate, hmap, hstopped]

theorem count_account_workerStopped (p : Pool Task Task.Board) (i : Nat) :
    p.account.count (.workerStopped i) = p.survivors.count i := by
  have hmap := List.count_map_of_injective p.survivors Notice.workerStopped
    (by rintro _ _ ⟨⟩; rfl) i
  have hcaught : (p.recovered.map Notice.jobPanicked).count (.workerStopped i) = 0 :=
    List.count_eq_zero.mpr (by simp)
  simp [account, List.count_replicate, hmap, hcaught]

theorem count_account_workerAborted (p : Pool Task Task.Board) :
    p.account.count .workerAborted = p.killed.length := by
  have hcaught : (p.recovered.map Notice.jobPanicked).count .workerAborted = 0 :=
    List.count_eq_zero.mpr (by simp)
  have hstopped : (p.survivors.map Notice.workerStopped).count .workerAborted = 0 :=
    List.count_eq_zero.mpr (by simp)
  simp [account, hcaught, hstopped]

theorem count_account_of_not_isOfWorker (p : Pool Task Task.Board) {a : Notice}
    (ha : a.isOfWorker = false) :
    p.account.count a = if a = .poolStarted p.size then 1 else 0 := by
  have hnone : a ∉ p.recovered.map Notice.jobPanicked ++ p.survivors.map .workerStopped
      ++ List.replicate p.killed.length .workerAborted := by
    simp only [List.mem_append, List.mem_map, List.mem_replicate]
    rintro ((⟨_, -, rfl⟩ | ⟨_, -, rfl⟩) | ⟨-, rfl⟩) <;> cases ha
  rw [account, List.count_cons, List.count_eq_zero.mpr hnone, Nat.zero_add]
  simp [eq_comm (a := a)]

theorem count_recovered (p : Pool Task Task.Board) (i : Nat) :
    p.recovered.count i = (p.ranOn i).count .panics := by
  rw [recovered, ranOn, List.count_filterMap, List.count_filterMap]
  refine List.countP_congr fun e _ => ?_
  by_cases hp : p.jobOf? e.1 = some .panics
  · simp [hp]
  · by_cases hi : e.2 = i <;> simp [hp, hi]

theorem Told.mem_killed_iff (h : Told board p) {i : Nat} :
    i ∈ p.killed ↔ p.workers[i]? = some .dead := by
  rw [killed, List.mem_filter, decide_eq_true_iff, ← h.dead_iff i, List.mem_range]
  exact and_iff_right_of_imp fun hw => (List.getElem?_eq_some_iff.mp hw).1

theorem Told.length_killed (h : Told board p) : p.killed.length = p.workers.count .dead := by
  have hworkers : (List.range p.size).map (fun i => p.workers[i]?) = p.workers.map some := by
    refine List.ext_getElem (by simp [size]) fun i hi _ => ?_
    have hlt : i < p.workers.length := by simpa [size] using hi
    simp [hlt]
  have hdead : p.workers.count .dead = (p.workers.map some).count (some .dead) :=
    (List.count_map_of_injective _ _ (fun _ _ => Option.some.inj) _).symm
  rw [hdead, ← hworkers, killed, ← List.countP_eq_length_filter, List.count, List.countP_map]
  refine List.countP_congr fun i _ => ?_
  simp [h.dead_iff i]

/-- When the workers have ended, those that have stopped are the survivors. -/
theorem Told.mem_survivors_iff (h : Told board p) (hend : ∀ w ∈ p.workers, w.isAlive = false)
    {i : Nat} : i ∈ p.survivors ↔ p.workers[i]? = some .stopped := by
  rw [survivors, List.mem_filter, decide_eq_true_iff, ← h.dead_iff i, List.mem_range]
  constructor
  · rintro ⟨hi, hnot⟩
    have hw := List.getElem?_eq_getElem (l := p.workers) hi
    rcases Worker.ended_iff.mp (hend _ (List.getElem_mem hi)) with hs | hd
    · rw [hw, hs]
    · rw [hw, hd] at hnot
      exact absurd rfl hnot
  · intro hw
    refine ⟨(List.getElem?_eq_some_iff.mp hw).1, ?_⟩
    rw [hw]
    rintro ⟨⟩

/-- When the owner is through, what is recorded is what there is to record. -/
theorem Records.perm (h : Records n board p) (ht : Told board p) (hs : Sound Task.load n jobs p)
    (hf : p.isFinished = true) : p.world.notices.Perm (p.account ++ board.notices) := by
  have hend := hs.ended hf
  refine List.perm_iff_count.mpr fun a => ?_
  rw [List.count_append, Nat.add_comm]
  cases a with
  | jobPanicked i =>
      rw [count_account_jobPanicked, count_recovered]
      exact ht.told i
  | workerStopped i =>
      have hnodup : p.survivors.Nodup := List.nodup_range.filter _
      rw [count_account_workerStopped, hnodup.count, h.stopped i]
      simp only [ht.mem_survivors_iff hend]
  | workerAborted =>
      obtain ⟨k, hk, hcount⟩ := h.aborted
      rw [(hs.orderly.through (List.isEmpty_iff.mp hf)).2] at hk
      have hall : p.workers.length ≤ k := by
        rw [hs.lifecycle.size]
        simpa using hk.symm
      rw [count_account_workerAborted, ht.length_killed, hcount, List.take_of_length_le hall]
  | _ =>
      rw [count_account_of_not_isOfWorker p rfl, show p.size = n from hs.lifecycle.size]
      exact h.others _ rfl

/-- The log of a pool whose owner is through. -/
structure Logged (n : Nat) (board : Task.Board) (p : Pool Task Task.Board) : Prop where
  log : ∃ notices, p.world.log = board.log ++ notices ∧ notices.Perm p.account
  size : p.size = n
  dead_iff : ∀ i, i ∈ p.killed ↔ p.workers[i]? = some .dead
  ends : p.survivors.length + p.killed.length = n

theorem Records.logged (h : Records n board p) (ht : Told board p) (hs : Sound Task.load n jobs p)
    (hf : p.isFinished = true) : Logged n board p where
  log := by
    obtain ⟨later, hlater⟩ := h.since
    have hperm := h.perm ht hs hf
    rw [← hlater, List.perm_append_right_iff] at hperm
    refine ⟨later.reverse, ?_, (List.reverse_perm _).trans hperm⟩
    rw [Task.Board.log, Task.Board.log, ← hlater, List.reverse_append]
  size := hs.lifecycle.size
  dead_iff _ := ht.mem_killed_iff
  ends := (length_survivors_add_killed p).trans hs.lifecycle.size

end Pool

end Liveness

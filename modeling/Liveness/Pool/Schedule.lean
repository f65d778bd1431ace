import Liveness.Pool.Machine

/-!
# Running a pool

A schedule says, move by move, which thread is asked first; the others are asked after it
in turn, and the first that can move does. Every order of moves comes from some schedule.
A pool makes a bounded number of moves, whatever the schedule: each move lowers `effort`,
which adds up what the owner, the queued jobs and the workers can still do.
-/

namespace Liveness

/-- The thread that is asked first at each move. -/
abbrev Schedule := Nat → Nat

namespace Schedule

/-- Asks the workers by number, and the owner when no worker can move. -/
def workersFirst : Schedule := fun _ => 0

/-- Asks another thread first at each move, by number and over again. -/
def inTurn : Schedule := fun n => n

end Schedule

namespace Pool

variable {J W : Type}

/-! ## A bound on the moves -/

/-- The sum of the numbers that `f` gives to the entries of a list. -/
def total {α : Type} (f : α → Nat) (l : List α) : Nat := l.foldr (fun a n => f a + n) 0

section Total

variable {α : Type} (f : α → Nat)

@[simp] theorem total_nil : total f [] = 0 := rfl

@[simp] theorem total_cons (a : α) (l : List α) : total f (a :: l) = f a + total f l := rfl

@[simp] theorem total_append (l m : List α) : total f (l ++ m) = total f l + total f m := by
  induction l with
  | nil => simp
  | cons a l ih =>
    simp only [List.cons_append, total_cons, ih]
    omega

@[simp] theorem total_replicate (n : Nat) (a : α) :
    total f (List.replicate n a) = n * f a := by
  induction n with
  | zero => simp
  | succ n ih =>
    rw [List.replicate_succ, total_cons, ih, Nat.succ_mul]
    omega

theorem total_eq_zero {f : α → Nat} {l : List α} (h : ∀ a ∈ l, f a = 0) : total f l = 0 := by
  induction l with
  | nil => rfl
  | cons a l ih =>
    rw [total_cons, h a (List.mem_cons_self ..), ih fun b hb => h b (List.mem_cons_of_mem _ hb)]

/-- Changing one entry of a list changes the sum by the difference. -/
theorem total_set {l : List α} {i : Nat} {a : α} (b : α) (h : l[i]? = some a) :
    total f (l.set i b) + f a = total f l + f b := by
  induction l generalizing i with
  | nil => simp at h
  | cons c l ih =>
    cases i with
    | zero =>
      obtain rfl := Option.some.inj h
      simp only [List.set_cons_zero, total_cons]
      omega
    | succ i =>
      have := ih (i := i) h
      simp only [List.set_cons_succ, total_cons]
      omega

end Total

def Command.effort (load : Workload J W) : Command J → Nat
  | .submit job => load.rank job + 4
  | .insist job => load.rank job + 4
  | .shutdown => 1

def Worker.effort (load : Workload J W) : Worker J → Nat
  | .idle => 1
  | .busy _ job => load.rank job + 3
  | .caught _ => 2
  | .stopped => 0
  | .dead => 0

/-- A bound on the moves that a pool can still make. -/
def effort (load : Workload J W) (p : Pool J W) : Nat :=
  total (Command.effort load) p.script
    + total (fun q => load.rank q.2 + 3) p.queue
    + total (Worker.effort load) p.workers
    + p.isOpen.toNat
    + p.unjoined.length

theorem effort_enqueue (load : Workload J W) (p : Pool J W) (job : J) :
    effort load (enqueue p job) = effort load p + load.rank job + 3 := by
  simp only [effort, enqueue, total_append, total_cons, total_nil]
  omega

theorem effort_bury_lt (load : Workload J W) {p : Pool J W} {i ticket : Nat} {job : J}
    (h : p.workers[i]? = some (.busy ticket job)) :
    effort load (bury p i) < effort load p := by
  have hset := total_set (Worker.effort load) .dead h
  simp only [Worker.effort] at hset
  dsimp only [bury]
  split
  · simp only [effort]
    omega
  · simp only [effort, total_nil]
    omega

theorem effort_lt_of_moveWorker {load : Workload J W} {i : Nat} {p q : Pool J W}
    (h : moveWorker load i p = some q) : effort load q < effort load p := by
  unfold moveWorker at h
  split at h
  · contradiction
  · contradiction
  · contradiction
  · rename_i hw
    split at h
    · rename_i ticket job rest hq
      obtain rfl := Option.some.inj h
      have hset := total_set (Worker.effort load) (.busy ticket job) hw
      simp only [Worker.effort] at hset
      simp only [effort, hq, total_cons]
      omega
    · split at h
      · contradiction
      · rename_i ho
        obtain rfl := Option.some.inj h
        have hset := total_set (Worker.effort load) .stopped hw
        simp only [Worker.effort] at hset
        simp only [effort]
        omega
  · rename_i ticket hw
    obtain rfl := Option.some.inj h
    have hset := total_set (Worker.effort load) .idle hw
    simp only [Worker.effort] at hset
    simp only [effort]
    omega
  · rename_i ticket job hw
    split at h
    · contradiction
    · rename_i rest world ht
      obtain rfl := Option.some.inj h
      have hset := total_set (Worker.effort load) (.busy ticket rest) hw
      have hrank := load.rank_more ht
      simp only [Worker.effort] at hset
      simp only [effort]
      omega
    · obtain rfl := Option.some.inj h
      have hset := total_set (Worker.effort load) .idle hw
      simp only [Worker.effort] at hset
      simp only [effort]
      omega
    · obtain rfl := Option.some.inj h
      have hset := total_set (Worker.effort load) (.caught ticket) hw
      simp only [Worker.effort] at hset
      simp only [effort]
      omega
    · obtain rfl := Option.some.inj h
      exact effort_bury_lt load (p := { p with
        world := _, executed := (ticket, i) :: p.executed }) hw

theorem effort_lt_of_moveOwner {load : Workload J W} {p q : Pool J W}
    (h : moveOwner load p = some q) : effort load q < effort load p := by
  unfold moveOwner at h
  split at h
  · contradiction
  · rename_i job rest hs
    split at h
    · obtain rfl := Option.some.inj h
      rw [effort_enqueue]
      simp only [effort, hs, Command.effort, total_cons]
      omega
    · obtain rfl := Option.some.inj h
      simp only [effort, hs, Command.effort, total_cons]
      omega
  · rename_i job rest hs
    split at h
    · obtain rfl := Option.some.inj h
      rw [effort_enqueue]
      simp only [effort, hs, Command.effort, total_cons]
      omega
    · obtain rfl := Option.some.inj h
      simp only [effort, hs, Command.effort, total_cons, total_nil]
      omega
  · rename_i rest hs
    split at h
    · rename_i ho
      obtain rfl := Option.some.inj h
      simp [effort, ho]
    · split at h
      · obtain rfl := Option.some.inj h
        simp only [effort, hs, Command.effort, total_cons]
        omega
      · rename_i worker others hu
        split at h
        · obtain rfl := Option.some.inj h
          simp [effort, hu]
        · obtain rfl := Option.some.inj h
          simp [effort, hu]
        · contradiction

theorem effort_lt_of_step {load : Workload J W} {p q : Pool J W} (h : Step load p q) :
    effort load q < effort load p := by
  cases h with
  | worker i h => exact effort_lt_of_moveWorker h
  | owner h => exact effort_lt_of_moveOwner h

/-! ## Moving on -/

/-- The move of the first thread that can move, asked from `thread` on and in turn. -/
def next (load : Workload J W) (thread : Nat) (p : Pool J W) : Option (Pool J W) :=
  (List.range (p.size + 1)).findSome? fun d => move load ((thread + d) % (p.size + 1)) p

/-- Makes at most `moves` moves; `n` of them are made already. -/
def runFor (load : Workload J W) (σ : Schedule) : Nat → Nat → Pool J W → Pool J W
  | 0, _, p => p
  | moves + 1, n, p =>
    match next load (σ n) p with
    | none => p
    | some q => runFor load σ moves (n + 1) q

def settle (load : Workload J W) (σ : Schedule) (p : Pool J W) : Pool J W :=
  runFor load σ (effort load p + 1) 0 p

/-- Gives the owner more to do. -/
def instruct (p : Pool J W) (commands : List (Command J)) : Pool J W :=
  { p with script := p.script ++ commands }

theorem step_of_next {load : Workload J W} {i : Nat} {p q : Pool J W}
    (h : next load i p = some q) : Step load p q := by
  obtain ⟨d, -, hd⟩ := List.exists_of_findSome?_eq_some h
  exact step_of_move hd

/-- Every thread is asked, so the pool is quiet if none of them moves. -/
theorem quiet_of_next_eq_none {load : Workload J W} {i : Nat} {p : Pool J W}
    (h : next load i p = none) : Quiet load p := by
  have asked : ∀ thread ≤ p.size, move load thread p = none := by
    intro thread ht
    let n := p.size + 1
    have hd : (thread + (n - i % n)) % n ∈ List.range n :=
      List.mem_range.2 (Nat.mod_lt _ (Nat.succ_pos _))
    have hn := List.findSome?_eq_none_iff.1 h _ hd
    have hi : i % n < n := Nat.mod_lt _ (Nat.succ_pos _)
    have hmod : (i + (thread + (n - i % n)) % n) % n = thread := by
      have hsum : i + (thread + (n - i % n)) = thread + n * (i / n + 1) := by
        have hdiv := Nat.div_add_mod i n
        rw [Nat.mul_succ]
        omega
      rw [Nat.add_mod_mod, hsum, Nat.add_mul_mod_self_left]
      exact Nat.mod_eq_of_lt (Nat.lt_succ_of_le ht)
    rw [hmod] at hn
    exact hn
  intro q hq
  cases hq with
  | worker j hj =>
    by_cases hlt : j < p.size
    · have := asked j (Nat.le_of_lt hlt)
      simp [move, hlt, hj] at this
    · simp [moveWorker_of_size_le (Nat.le_of_not_lt hlt)] at hj
  | owner hj =>
    have := asked p.size (Nat.le_refl _)
    simp [move, hj] at this

theorem reaches_runFor (load : Workload J W) (σ : Schedule) (moves n : Nat) (p : Pool J W) :
    Reaches load p (runFor load σ moves n p) := by
  induction moves generalizing n p with
  | zero => exact .refl
  | succ moves ih =>
    unfold runFor
    split
    · exact .refl
    · rename_i q h
      exact (Reaches.next .refl (step_of_next h)).trans (ih _ _)

/-- A pool that has settled has come there by moves of its threads. -/
theorem reaches_settle (load : Workload J W) (σ : Schedule) (p : Pool J W) :
    Reaches load p (settle load σ p) :=
  reaches_runFor load σ _ 0 p

theorem quiet_runFor {load : Workload J W} (σ : Schedule) {moves : Nat} (n : Nat)
    {p : Pool J W} (h : effort load p < moves) : Quiet load (runFor load σ moves n p) := by
  induction moves generalizing n p with
  | zero => omega
  | succ moves ih =>
    unfold runFor
    split
    · rename_i hn
      exact quiet_of_next_eq_none hn
    · rename_i q hn
      have := effort_lt_of_step (step_of_next hn)
      exact ih _ (by omega)

theorem quiet_settle (load : Workload J W) (σ : Schedule) (p : Pool J W) :
    Quiet load (settle load σ p) :=
  quiet_runFor σ 0 (Nat.lt_succ_self _)

end Pool

end Liveness

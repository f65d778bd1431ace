import Liveness.Proofs.Pool.Transition

/-!
# The lives of the workers

What holds of the workers, the queue and the owner's waiting at every moment. No worker
stops while the queue is open; jobs wait in the queue only as long as some worker lives and
none has stopped; jobs are discarded only when all workers are dead; and a worker that the
owner has awaited has ended.
-/

namespace Liveness

namespace Pool

variable {J W : Type} {load : Workload J W} {n : Nat} {p q : Pool J W}

/-! ## Workers -/

/-- An entry of a list of which one was set is that one, or was there before. -/
theorem getElem?_set_cases {α : Type} {l : List α} {i j : Nat} {a b : α}
    (h : (l.set i b)[j]? = some a) : i = j ∧ a = b ∨ i ≠ j ∧ l[j]? = some a := by
  rw [List.getElem?_set] at h
  split at h
  · rename_i hij
    split at h
    · exact .inl ⟨hij, (Option.some.inj h).symm⟩
    · cases h
  · rename_i hij
    exact .inr ⟨hij, h⟩

theorem Worker.ended_iff {w : Worker J} : w.isAlive = false ↔ w = .stopped ∨ w = .dead := by
  cases w <;> simp [Worker.isAlive]

theorem Worker.ticket?_eq_none_of_ended {w : Worker J} (h : w.isAlive = false) :
    w.ticket? = none := by
  rcases Worker.ended_iff.mp h with rfl | rfl <;> rfl

theorem accepts_eq_true_iff :
    p.accepts = true ↔ p.isOpen = true ∧ ∃ w ∈ p.workers, w.isAlive = true := by
  simp [accepts]

@[simp] theorem bury_workers (p : Pool J W) (i : Nat) :
    (bury p i).workers = p.workers.set i .dead := by
  dsimp only [bury]
  split <;> rfl

@[simp] theorem bury_isOpen (p : Pool J W) (i : Nat) : (bury p i).isOpen = p.isOpen := by
  dsimp only [bury]
  split <;> rfl

@[simp] theorem bury_unjoined (p : Pool J W) (i : Nat) :
    (bury p i).unjoined = p.unjoined := by
  dsimp only [bury]
  split <;> rfl

@[simp] theorem bury_script (p : Pool J W) (i : Nat) : (bury p i).script = p.script := by
  dsimp only [bury]
  split <;> rfl

@[simp] theorem bury_accepted (p : Pool J W) (i : Nat) :
    (bury p i).accepted = p.accepted := by
  dsimp only [bury]
  split <;> rfl

@[simp] theorem bury_refused (p : Pool J W) (i : Nat) : (bury p i).refused = p.refused := by
  dsimp only [bury]
  split <;> rfl

@[simp] theorem bury_executed (p : Pool J W) (i : Nat) :
    (bury p i).executed = p.executed := by
  dsimp only [bury]
  split <;> rfl

@[simp] theorem bury_world (p : Pool J W) (i : Nat) : (bury p i).world = p.world := by
  dsimp only [bury]
  split <;> rfl

/-- A death leaves the queue alone, or it was the last one and the queue is lost. -/
theorem bury_queue_cases (p : Pool J W) (i : Nat) :
    ((bury p i).queue = p.queue ∧ (bury p i).discarded = p.discarded
        ∧ ∃ w ∈ p.workers.set i .dead, w.isAlive = true)
      ∨ ((bury p i).queue = [] ∧ (bury p i).discarded = p.discarded ++ p.queued
        ∧ ∀ w ∈ p.workers.set i .dead, w.isAlive = false) := by
  dsimp only [bury]
  split
  · rename_i hany
    exact .inl ⟨rfl, rfl, List.any_eq_true.mp hany⟩
  · rename_i hany
    refine .inr ⟨rfl, rfl, fun w hw => ?_⟩
    cases hwa : w.isAlive with
    | false => rfl
    | true => exact absurd (List.any_eq_true.mpr ⟨w, hw, hwa⟩) hany

/-! ## The invariant -/

structure Lifecycle (n : Nat) (p : Pool J W) : Prop where
  size : p.workers.length = n
  open_live : p.isOpen = true → .stopped ∉ p.workers
  queue_live : p.queue ≠ [] → .stopped ∉ p.workers ∧ ∃ w ∈ p.workers, w.isAlive = true
  lost_dead : p.discarded ≠ [] → ∀ w ∈ p.workers, w = .dead
  /-- a worker that the owner has awaited has ended -/
  awaited : ∀ {i w}, p.workers[i]? = some w → i ∈ p.unjoined ∨ w.isAlive = false
  unjoined_lt : ∀ {i}, i ∈ p.unjoined → i < n

theorem lifecycle_ofSize (n : Nat) (script : List (Command J)) (world : W) :
    Lifecycle n (ofSize n script world) where
  size := List.length_replicate
  open_live _ h := by cases List.eq_of_mem_replicate h
  queue_live h := absurd rfl h
  lost_dead h := absurd rfl h
  awaited {i w} h := by
    refine .inl (List.mem_range.mpr ?_)
    have hi := (List.getElem?_eq_some_iff.mp h).1
    simpa [ofSize] using hi
  unjoined_lt h := List.mem_range.mp h

/-- A worker that lives takes a new state in which it lives on. -/
theorem Lifecycle.set {i : Nat} {a b : Worker J} (h : Lifecycle n p)
    (hw : p.workers[i]? = some a) (ha : a.isAlive = true) (hb : b.isAlive = true)
    (hws : q.workers = p.workers.set i b) (hq : q.queue ≠ [] → p.queue ≠ [])
    (ho : q.isOpen = p.isOpen) (hd : q.discarded = p.discarded)
    (hu : q.unjoined = p.unjoined) : Lifecycle n q := by
  have hi : i < p.workers.length := (List.getElem?_eq_some_iff.mp hw).1
  have hmem : ∀ w ∈ p.workers.set i b, w ∈ p.workers ∨ w = b := fun w hw' =>
    List.mem_or_eq_of_mem_set hw'
  have hns : Worker.stopped ∉ p.workers → Worker.stopped ∉ p.workers.set i b := by
    intro hp hs
    rcases hmem _ hs with hs | rfl
    · exact hp hs
    · cases hb
  refine ⟨?_, ?_, ?_, ?_, ?_, ?_⟩
  · rw [hws, List.length_set, h.size]
  · intro hopen
    rw [hws]
    exact hns (h.open_live (ho ▸ hopen))
  · intro hne
    rw [hws]
    exact ⟨hns (h.queue_live (hq hne)).1, b, List.mem_set hi b, hb⟩
  · intro hne
    have := h.lost_dead (hd ▸ hne) a (List.mem_of_getElem? hw)
    subst this
    cases ha
  · intro j w hj
    rw [hws] at hj
    rw [hu]
    rcases getElem?_set_cases hj with ⟨rfl, -⟩ | ⟨-, hj⟩
    · rcases h.awaited hw with hu | he
      · exact .inl hu
      · rw [ha] at he
        cases he
    · exact h.awaited hj
  · intro j hj
    exact h.unjoined_lt (hu ▸ hj)

/-- Nothing is discarded while a worker lives. -/
theorem Lifecycle.discarded_eq_nil {i : Nat} {a : Worker J} (h : Lifecycle n p)
    (hw : p.workers[i]? = some a) (ha : a.isAlive = true) : p.discarded = [] := by
  by_cases hd : p.discarded = []
  · exact hd
  · obtain rfl := h.lost_dead hd a (List.mem_of_getElem? hw)
    cases ha

/-- The ends of workers that have ended stay as they are when another worker ends. -/
theorem Lifecycle.awaited_set {i : Nat} {b : Worker J} (h : Lifecycle n p)
    (hb : b.isAlive = false) {j : Nat} {w : Worker J}
    (hj : (p.workers.set i b)[j]? = some w) : j ∈ p.unjoined ∨ w.isAlive = false := by
  rcases getElem?_set_cases hj with ⟨-, rfl⟩ | ⟨-, hj⟩
  · exact .inr hb
  · exact h.awaited hj

theorem Lifecycle.stop {i : Nat} (h : Lifecycle n p) (hw : p.workers[i]? = some .idle)
    (hq : p.queue = []) (ho : p.isOpen = false) (world : W) :
    Lifecycle n { p with workers := p.workers.set i .stopped, world } where
  size := by rw [List.length_set, h.size]
  open_live hopen := by simp [ho] at hopen
  queue_live hne := absurd hq hne
  lost_dead hne := by cases h.lost_dead hne _ (List.mem_of_getElem? hw)
  awaited hj := h.awaited_set rfl hj
  unjoined_lt hj := h.unjoined_lt hj

theorem Lifecycle.die {i ticket : Nat} {job : J} (h : Lifecycle n p)
    (hw : p.workers[i]? = some (.busy ticket job)) : Lifecycle n (bury p i) := by
  have hns : Worker.stopped ∉ p.workers → Worker.stopped ∉ p.workers.set i .dead := by
    intro hp hs
    rcases List.mem_or_eq_of_mem_set hs with hs | hs
    · exact hp hs
    · cases hs
  have hlost : p.discarded = [] := h.discarded_eq_nil hw rfl
  refine ⟨by rw [bury_workers, List.length_set, h.size], ?_, ?_, ?_, ?_, ?_⟩
  · intro hopen
    rw [bury_workers]
    exact hns (h.open_live (by simpa using hopen))
  · intro hne
    rw [bury_workers]
    rcases bury_queue_cases p i with ⟨hq, -, halive⟩ | ⟨hq, -, -⟩
    · exact ⟨hns (h.queue_live (hq ▸ hne)).1, halive⟩
    · exact absurd hq hne
  · intro hne w hmem
    rw [bury_workers] at hmem
    rcases bury_queue_cases p i with ⟨-, hd, -⟩ | ⟨-, hd, hall⟩
    · exact absurd (hd.trans hlost) hne
    · -- what is discarded now was queued, so none of the workers that ended has stopped
      have hq : p.queue ≠ [] := by
        intro hq
        rw [hd, hlost, queued, hq] at hne
        exact hne rfl
      rcases Worker.ended_iff.mp (hall w hmem) with rfl | rfl
      · exact absurd hmem (hns (h.queue_live hq).1)
      · rfl
  · intro j w hj
    rw [bury_workers] at hj
    rw [bury_unjoined]
    exact h.awaited_set rfl hj
  · intro j hj
    exact h.unjoined_lt (by simpa using hj)

theorem Lifecycle.enqueue {job : J} (h : Lifecycle n p) (ha : p.accepts = true) :
    Lifecycle n (enqueue p job) := by
  obtain ⟨ho, halive⟩ := accepts_eq_true_iff.mp ha
  exact { h with queue_live := fun _ => ⟨h.open_live ho, halive⟩ }

/-- Awaiting a worker that has ended. -/
theorem Lifecycle.await {i : Nat} {others : List Nat} {a : Worker J} (h : Lifecycle n p)
    (hu : p.unjoined = i :: others) (hw : p.workers[i]? = some a)
    (ha : a.isAlive = false) (world : W) :
    Lifecycle n { p with unjoined := others, world } := by
  refine { h with awaited := ?_, unjoined_lt := ?_ }
  · intro j w hj
    rcases h.awaited hj with hmem | hend
    · rw [hu] at hmem
      rcases List.mem_cons.mp hmem with rfl | hmem
      · obtain rfl := Option.some.inj (hw.symm.trans hj)
        exact .inr ha
      · exact .inl hmem
    · exact .inr hend
  · intro j hj
    exact h.unjoined_lt (hu ▸ List.mem_cons_of_mem i hj)

theorem Lifecycle.step (h : Lifecycle n p) (ht : Transition load p q) : Lifecycle n q := by
  cases ht with
  | take hw hq =>
      exact h.set hw rfl rfl rfl (fun _ => by rw [hq]; exact List.cons_ne_nil _ _) rfl rfl rfl
  | stop hw hq ho => exact h.stop hw hq ho _
  | proceed hw => exact h.set hw rfl rfl rfl id rfl rfl rfl
  | finish hw => exact h.set hw rfl rfl rfl id rfl rfl rfl
  | panic hw => exact h.set hw rfl rfl rfl id rfl rfl rfl
  | recover hw => exact h.set hw rfl rfl rfl id rfl rfl rfl
  | die hw =>
      exact Lifecycle.die (p := { p with world := _, executed := _ }) { h with } hw
  | submit hs ha => exact Lifecycle.enqueue (p := { p with script := _ }) { h with } ha
  | refuse => exact { h with }
  | giveUp => exact { h with }
  | close => exact { h with open_live := fun hopen => by cases hopen }
  | await _ _ hu hw => exact h.await hu hw rfl _
  | awaitDead _ _ hu hw => exact h.await hu hw rfl _
  | leave => exact { h with }

/-! ## What follows -/

theorem Lifecycle.exists_mem (h : Lifecycle n p) (hn : 0 < n) : ∃ w, w ∈ p.workers :=
  List.exists_mem_of_length_pos (by rw [h.size]; exact hn)

/-- While the queue is open a worker that has ended is dead. -/
theorem Lifecycle.accepts_eq_false_iff (h : Lifecycle n p) (ho : p.isOpen = true) :
    p.accepts = false ↔ ∀ w ∈ p.workers, w = .dead := by
  rw [← Bool.not_eq_true, accepts_eq_true_iff]
  constructor
  · intro hnot w hw
    cases hwa : w.isAlive with
    | true => exact absurd ⟨ho, w, hw, hwa⟩ hnot
    | false =>
        rcases Worker.ended_iff.mp hwa with rfl | rfl
        · exact absurd hw (h.open_live ho)
        · rfl
  · rintro hdead ⟨-, w, hw, hwa⟩
    rw [hdead w hw] at hwa
    cases hwa

/-- When every worker has been awaited, every worker has ended. -/
theorem Lifecycle.ended (h : Lifecycle n p) (hu : p.unjoined = []) :
    ∀ w ∈ p.workers, w.isAlive = false := by
  intro w hw
  obtain ⟨i, hi⟩ := List.mem_iff_getElem?.mp hw
  rcases h.awaited hi with hmem | hend
  · rw [hu] at hmem
    cases hmem
  · exact hend

theorem Lifecycle.queue_eq_nil (h : Lifecycle n p)
    (hend : ∀ w ∈ p.workers, w.isAlive = false) : p.queue = [] := by
  by_cases hq : p.queue = []
  · exact hq
  · obtain ⟨-, w, hw, halive⟩ := h.queue_live hq
    rw [hend w hw] at halive
    cases halive

theorem running_eq_nil (hend : ∀ w ∈ p.workers, w.isAlive = false) : p.running = [] :=
  List.filterMap_eq_nil_iff.mpr fun w hw => Worker.ticket?_eq_none_of_ended (hend w hw)

end Pool

end Liveness

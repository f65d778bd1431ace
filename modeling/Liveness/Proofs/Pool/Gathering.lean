import Liveness.Proofs.Pool.Interleaving
import Liveness.Proofs.Pool.Isolation

/-!
# Jobs that wait for each other

The members of a group hold their workers until all of them are running, and other groups, other
jobs and deaths of workers come in between. A pool does not get stuck on them as long as each
group finds room: it has at most as many members as there are workers, less the killers that were
submitted before it.

Suppose that all workers that live wait. Each of them waits for a member of its group that no
worker has taken, since one that was taken could go on. The queue is first in, first out, and a
group is submitted in one piece. So at most one group is taken in part, the last that was taken
from, and all the living wait for that one; they are fewer than its members. The others are dead,
of killers that were taken before the group and so submitted before it. Together these are fewer
than all workers.
-/

namespace Liveness

open Pool

namespace Task

/-- Whether the task is a member of the group that has not started. -/
def isMember (g : Nat) : Task → Bool
  | .joins group _ => group == g
  | _ => false

/-- Whether the task is a member of the group that has started. -/
def isWaiting (g : Nat) : Task → Bool
  | .waits group _ => group == g
  | _ => false

theorem isMember_iff {g : Nat} {task : Task} :
    task.isMember g = true ↔ ∃ size, task = .joins g size := by
  cases task <;> simp [isMember]

/-- A member starts, or the turn is the last one of the task and tells nobody. -/
theorem turn_cases {i : Nat} {task : Task} {turn : Turn Task} {board board' : Board}
    (h : load.turn i task board = some (turn, board')) :
    (∃ id size, task = .joins id size ∧ turn = .more (.waits id size)
        ∧ board' = board.arrive id)
      ∨ (∀ g, task.isMember g = false) ∧ (∀ rest, turn ≠ .more rest) ∧ board' = board := by
  cases task with
  | joins id size =>
      obtain ⟨rfl, rfl⟩ := Prod.mk.inj (Option.some.inj h)
      exact .inl ⟨id, size, rfl, rfl, rfl⟩
  | waits id size =>
      obtain ⟨-, rfl, rfl⟩ : _ ∧ .finished = turn ∧ board = board' := by
        simpa [load, Task.turn] using h
      exact .inr ⟨fun _ => rfl, by rintro _ ⟨⟩, rfl⟩
  | _ =>
      obtain ⟨rfl, rfl⟩ := Prod.mk.inj (Option.some.inj h)
      exact .inr ⟨fun _ => rfl, by rintro _ ⟨⟩, rfl⟩

theorem turn_eq_none_iff {i : Nat} {task : Task} {board : Board} :
    load.turn i task board = none
      ↔ ∃ id size, task = .waits id size ∧ board.present id < size := by
  cases task <;> simp [load, Task.turn]

theorem mayKill_iff {task : Task} : MayKill load task ↔ task = .kills := by
  constructor
  · intro h
    induction h with
    | @now worker task board board' ht =>
        cases task <;> simp [load, Task.turn] at ht ⊢
    | @later worker task rest board board' ht _ ih =>
        subst ih
        rcases turn_cases ht with ⟨id, size, -, hmore, -⟩ | ⟨-, hlast, -⟩
        · cases hmore
        · exact absurd rfl (hlast _)
  · rintro rfl
    have hturn : load.turn 0 .kills .empty = some (.fatal, .empty) := rfl
    exact .now hturn

theorem killers_eq_count (as : List (Nat × Task)) :
    killers load as = (as.map Prod.snd).count .kills := by
  rw [killers, List.count, List.countP_map]
  refine List.countP_congr fun a _ => ?_
  simp [mayKill_iff]

end Task

namespace Pool

variable {n : Nat} {jobs : List Task} {p q : Pool Task Task.Board}

/-! ## Sums over workers -/

theorem length_le_total {α : Type} {f g : α → Nat} {l : List α} (h : ∀ a ∈ l, 1 ≤ f a + g a) :
    l.length ≤ total f l + total g l := by
  induction l with
  | nil => exact Nat.zero_le _
  | cons a l ih =>
      have ha := h a (List.mem_cons_self ..)
      have hl := ih fun b hb => h b (List.mem_cons_of_mem _ hb)
      rw [total_cons, total_cons, List.length_cons]
      omega

/-! ## Members on their way -/

/-- One for a worker with a member of the group in hand that has not started. -/
def Worker.joining (g : Nat) : Worker Task → Nat
  | .busy _ task => if task.isMember g then 1 else 0
  | _ => 0

/-- One for a worker with a member of the group in hand that has started. -/
def Worker.waiting (g : Nat) : Worker Task → Nat
  | .busy _ task => if task.isWaiting g then 1 else 0
  | _ => 0

def members (g : Nat) (as : List (Nat × Task)) : Nat := as.countP fun a => a.2.isMember g

theorem members_cons (g t : Nat) (job : Task) (as : List (Nat × Task)) :
    members g ((t, job) :: as) = members g as + (Worker.busy t job).joining g :=
  List.countP_cons

theorem members_append (g : Nat) (as bs : List (Nat × Task)) :
    members g (as ++ bs) = members g as + members g bs :=
  List.countP_append

/-- Where the members of each group are: those that were accepted have started, are in hand or
queued, unless the queue was lost; and those that wait have started. -/
structure Mustered (p : Pool Task Task.Board) : Prop where
  called : p.discarded = [] → ∀ g, p.world.present g + total (Worker.joining g) p.workers
    + members g p.queue = members g p.accepted
  waiting : ∀ g, total (Worker.waiting g) p.workers ≤ p.world.present g

theorem mustered_ofSize (n : Nat) (script : List (Command Task)) {board : Task.Board}
    (hboard : ∀ g, board.present g = 0) : Mustered (ofSize n script board) where
  called _ g := by simp [ofSize, members, hboard, Worker.joining]
  waiting g := by simp [ofSize, Worker.waiting]

theorem Mustered.set {i : Nat} {a b : Worker Task} (h : Mustered p)
    (hw : p.workers[i]? = some a) (hws : q.workers = p.workers.set i b)
    (hq : q.discarded = [] → p.discarded = [] ∧ q.queue = p.queue)
    (hacc : q.accepted = p.accepted)
    (hjoin : ∀ g, q.world.present g + b.joining g = p.world.present g + a.joining g)
    (hwait : ∀ g, p.world.present g + b.waiting g ≤ q.world.present g + a.waiting g) :
    Mustered q where
  called hd g := by
    obtain ⟨hd, hq⟩ := hq hd
    have hcalled := h.called hd g
    have hset := total_set (Worker.joining g) b hw
    have hg := hjoin g
    rw [hws, hq, hacc]
    omega
  waiting g := by
    have hset := total_set (Worker.waiting g) b hw
    have hwaiting := h.waiting g
    have hg := hwait g
    rw [hws]
    omega

theorem Mustered.take {i ticket : Nat} {job : Task} {rest : List (Nat × Task)}
    (h : Mustered p) (hw : p.workers[i]? = some .idle) (hq : p.queue = (ticket, job) :: rest)
    (hjob : ∀ g, job.isWaiting g = false) :
    Mustered { p with queue := rest, workers := p.workers.set i (.busy ticket job) } where
  called hd g := by
    have hcalled := h.called hd g
    have hset := total_set (Worker.joining g) (.busy ticket job) hw
    have hidle : (Worker.idle : Worker Task).joining g = 0 := rfl
    rw [hq, members_cons] at hcalled
    dsimp only
    omega
  waiting g := by
    have hset := total_set (Worker.waiting g) (.busy ticket job) hw
    have hidle : (Worker.idle : Worker Task).waiting g = 0 := rfl
    have hbusy : (Worker.busy ticket job).waiting g = 0 := by rw [Worker.waiting, hjob]; rfl
    have hwaiting := h.waiting g
    dsimp only
    omega

theorem Mustered.enqueue (h : Mustered p) (job : Task) : Mustered (enqueue p job) where
  called hd g := by
    have hcalled := h.called hd g
    have hnil : members g [] = 0 := rfl
    simp only [Pool.enqueue, members_append, members_cons]
    omega
  waiting := h.waiting

/-- A task that has come to its last turn leaves the groups as they are. -/
theorem Mustered.last {i t : Nat} {task : Task} {turn : Turn Task} {board : Task.Board}
    {b : Worker Task} (h : Mustered p) (hw : p.workers[i]? = some (.busy t task))
    (ht : Task.load.turn i task p.world = some (turn, board)) (hlast : ∀ rest, turn ≠ .more rest)
    (hb : b.ticket? = none ∨ b = .caught t) (hws : q.workers = p.workers.set i b)
    (hq : q.discarded = [] → p.discarded = [] ∧ q.queue = p.queue)
    (hacc : q.accepted = p.accepted) (hworld : q.world = board) : Mustered q := by
  obtain ⟨id, size, -, rfl, -⟩ | ⟨hmember, -, hboard⟩ := Task.turn_cases ht
  · exact absurd rfl (hlast _)
  · have hnone : ∀ g, b.joining g = 0 ∧ b.waiting g = 0 := by
      intro g
      rcases hb with hb | rfl
      · cases b with
        | busy => cases hb
        | _ => exact ⟨rfl, rfl⟩
      · exact ⟨rfl, rfl⟩
    refine h.set hw hws hq hacc (fun g => ?_) fun g => ?_
    · rw [hworld, hboard, (hnone g).1, Worker.joining, hmember g]
      rfl
    · rw [hworld, hboard, (hnone g).2]
      exact Nat.le_add_right _ _

/-- A death that loses nothing leaves the queue alone. -/
theorem bury_queue_of_kept {J W : Type} {p : Pool J W} {i : Nat}
    (h : (bury p i).discarded = []) : p.discarded = [] ∧ (bury p i).queue = p.queue := by
  rcases bury_queue_cases p i with ⟨hq, hd, -⟩ | ⟨hq, hd, -⟩
  · exact ⟨hd ▸ h, hq⟩
  · obtain ⟨hnil, hqueued⟩ := List.append_eq_nil_iff.mp (hd.symm.trans h)
    exact ⟨hnil, hq.trans (List.map_eq_nil_iff.mp hqueued).symm⟩

theorem Mustered.step (h : Mustered p) (hfresh : ∀ a ∈ p.queue, ∀ g, a.2.isWaiting g = false)
    (ht : Transition Task.load p q) : Mustered q := by
  cases ht with
  | take hw hq => exact h.take hw hq (hfresh _ (by rw [hq]; exact List.mem_cons_self ..))
  | stop hw => exact h.set hw rfl (⟨·, rfl⟩) rfl (fun _ => rfl) fun _ => Nat.le_refl _
  | @proceed i ticket task rest board hw ht =>
      obtain ⟨id, size, rfl, hmore, rfl⟩ | ⟨-, hlast, -⟩ := Task.turn_cases ht
      · -- a member starts: now it counts as present, and as one that waits
        cases hmore
        refine h.set hw rfl (⟨·, rfl⟩) rfl (fun g => ?_) fun g => ?_
        all_goals
          by_cases hg : g = id
          · subst hg
            simp [Worker.joining, Worker.waiting, Task.isMember, Task.isWaiting]
          · have hg' : id ≠ g := fun heq => hg heq.symm
            simp [Worker.joining, Worker.waiting, Task.isMember, Task.isWaiting, hg, hg']
      · exact absurd rfl (hlast _)
  | finish hw ht =>
      exact h.last hw ht (by rintro _ ⟨⟩) (.inl rfl) rfl (⟨·, rfl⟩) rfl rfl
  | panic hw ht =>
      exact h.last hw ht (by rintro _ ⟨⟩) (.inr rfl) rfl (⟨·, rfl⟩) rfl rfl
  | recover hw => exact h.set hw rfl (⟨·, rfl⟩) rfl (fun _ => rfl) fun _ => Nat.le_refl _
  | die hw ht =>
      exact h.last hw ht (by rintro _ ⟨⟩) (.inl rfl) (bury_workers _ _) bury_queue_of_kept
        (bury_accepted _ _) (bury_world _ _)
  | @submit job rest => exact Mustered.enqueue (p := { p with script := rest }) { h with } job
  | refuse => exact { h with }
  | giveUp => exact { h with }
  | close => exact { h with }
  | await => exact { h with }
  | awaitDead => exact { h with }
  | leave => exact { h with }

/-! ## Groups in the order of submission -/

/-- In a list in which the `x` stand in one block, a cut that leaves some on either side goes
through the block. -/
theorem exists_cut {α : Type} {x : α} {before after taken rest : List α} {k : Nat}
    (h : before ++ List.replicate k x ++ after = taken ++ rest) (hbefore : x ∉ before)
    (hafter : x ∉ after) (htaken : x ∈ taken) (hrest : x ∈ rest) :
    ∃ j, taken = before ++ List.replicate j x ∧ rest.head? = some x := by
  rw [List.append_assoc] at h
  rcases List.append_eq_append_iff.mp h with ⟨begun, rfl, hblock⟩ | ⟨more, rfl, -⟩
  · rcases List.append_eq_append_iff.mp hblock with ⟨more, -, rfl⟩ | ⟨left, hsplit, rfl⟩
    · exact absurd (List.mem_append_right _ hrest) hafter
    · obtain ⟨-, hbegun, hleft⟩ := List.append_eq_replicate_iff.mp hsplit.symm
      refine ⟨begun.length, by rw [← hbegun], ?_⟩
      cases left with
      | nil => exact absurd hrest hafter
      | cons y left =>
          obtain rfl := List.eq_of_mem_replicate (hleft ▸ List.mem_cons_self ..)
          rfl
  · exact absurd (List.mem_append_left _ htaken) hbefore

/-- The members of the group stand in one block, and after the killers before it there are workers
for all of them. -/
def HasRoom (n : Nat) (jobs : List Task) (g size : Nat) : Prop :=
  ∃ before after, jobs = before ++ Task.group g size ++ after
    ∧ (∀ task ∈ before ++ after, task.isMember g = false)
    ∧ before.count .kills + size ≤ n

/-- The jobs are such that `n` workers never get stuck on them. -/
structure Roomy (n : Nat) (jobs : List Task) : Prop where
  fresh : ∀ task ∈ jobs, ∀ g, task.isWaiting g = false
  kills : jobs.count .kills < n
  group : ∀ g size, .joins g size ∈ jobs → HasRoom n jobs g size

/-- The members of a group are those of its block. -/
theorem members_of_block {before after : List Task} {g : Nat} (size : Nat)
    (hnone : ∀ task ∈ before ++ after, task.isMember g = false) :
    (before ++ Task.group g size ++ after).countP (Task.isMember g) = size
      ∧ ∀ task ∈ before ++ Task.group g size ++ after, task.isMember g = true →
        task = .joins g size := by
  have hzero : ∀ tasks : List Task, (∀ task ∈ tasks, task ∈ before ++ after) →
      tasks.countP (Task.isMember g) = 0 := fun tasks hsub =>
    List.countP_eq_zero.mpr fun task hmem => by simp [hnone task (hsub task hmem)]
  refine ⟨?_, fun task hmem hmember => ?_⟩
  · rw [List.countP_append, List.countP_append, hzero before fun _ => List.mem_append_left _,
      hzero after fun _ => List.mem_append_right _, Task.group, List.countP_replicate]
    simp [Task.isMember]
  · rw [List.append_assoc, List.mem_append, List.mem_append] at hmem
    rcases hmem with hmem | hmem | hmem
    · rw [hnone task (List.mem_append_left _ hmem)] at hmember
      cases hmember
    · exact List.eq_of_mem_replicate hmem
    · rw [hnone task (List.mem_append_right _ hmem)] at hmember
      cases hmember

/-! ## No thread can move -/

/-- Nothing more is submitted, and all workers that live wait. -/
structure Stuck (p : Pool Task Task.Board) : Prop where
  closed : p.isOpen = false
  waits : ∀ w ∈ p.workers, w.isAlive = true →
    ∃ t g size, w = .busy t (.waits g size) ∧ p.world.present g < size

/-- The workers have taken the jobs `taken`, and all others are queued. -/
structure Split (jobs taken : List Task) (p : Pool Task Task.Board) : Prop where
  discarded : p.discarded = []
  accepted : p.accepted.reverse.map Prod.snd = jobs
  jobs_eq : jobs = taken ++ p.queue.map Prod.snd
  held : ∀ {i t : Nat} {w : Worker Task} {job : Task}, p.workers[i]? = some w →
    w.ticket? = some t → (t, job) ∈ p.accepted → job ∈ taken

theorem exists_split (hs : Sound Task.load n jobs p) (hclosed : p.isOpen = false)
    (hlive : ∃ w ∈ p.workers, w ≠ .dead) : ∃ taken, Split jobs taken p := by
  have hpending : p.pending = [] :=
    List.filterMap_eq_nil_iff.mpr fun c hc =>
      Command.eq_shutdown_iff.mp (hs.orderly.closed hclosed c hc)
  have haccepted := (hs.submitted hlive).2
  rw [hpending, List.append_nil] at haccepted
  obtain ⟨taken, htaken⟩ := hs.ledger.queue_suffix
  refine ⟨taken.map Prod.snd, hs.discarded_eq_nil hlive, haccepted, ?_, ?_⟩
  · rw [← haccepted, ← htaken, List.map_append]
  · intro i t w job hw ht hmem
    have hmem := List.mem_reverse.mpr hmem
    rw [← htaken] at hmem
    rcases List.mem_append.mp hmem with hmem | hmem
    · exact List.mem_map_of_mem hmem
    · exact absurd (List.mem_map_of_mem hmem) (hs.ledger.not_queued (mem_running hw ht))

theorem Split.killers_accepted {taken : List Task} (h : Split jobs taken p) :
    killers Task.load p.accepted = taken.count .kills + killers Task.load p.queue := by
  rw [Task.killers_eq_count, Task.killers_eq_count, ← List.count_reverse, ← List.map_reverse,
    h.accepted, h.jobs_eq, List.count_append]

theorem Stuck.joining_eq_zero (h : Stuck p) (g : Nat) :
    total (Worker.joining g) p.workers = 0 := by
  have hnone : ∀ w ∈ p.workers, w.joining g = 0 := by
    intro w hw
    cases halive : w.isAlive with
    | true =>
        obtain ⟨t, g', size, rfl, -⟩ := h.waits w hw halive
        rfl
    | false => rcases Worker.ended_iff.mp halive with rfl | rfl <;> rfl
  exact total_eq_zero hnone

/-- The queue begins with a member of the group that a stuck worker waits for, and all that was
taken before the group are the jobs submitted before it. -/
theorem Stuck.cut {taken : List Task} {i t g size : Nat} (h : Stuck p)
    (hs : Sound Task.load n jobs p) (hm : Mustered p) (hr : Roomy n jobs)
    (hsplit : Split jobs taken p) (hw : p.workers[i]? = some (.busy t (.waits g size)))
    (hlt : p.world.present g < size) :
    (∃ before j, taken = before ++ List.replicate j (.joins g size)
        ∧ before.count .kills + size ≤ n)
      ∧ (p.queue.map Prod.snd).head? = some (.joins g size) := by
  obtain ⟨start, hmem, hrem⟩ := hs.custody i t _ hw
  obtain rfl : start = .joins g size := by
    rcases Task.remains_cases hrem with rfl | ⟨_, _, rfl, heq⟩
    · have hfresh := hr.fresh _ (hs.accepted_mem hmem) g
      simp [Task.isWaiting] at hfresh
    · cases heq
      rfl
  obtain ⟨before, after, hjobs, hnone, hroom⟩ := hr.group g size (hs.accepted_mem hmem)
  obtain ⟨hcount, hblock⟩ := members_of_block size hnone
  rw [← hjobs] at hcount hblock
  have htaken : .joins g size ∈ taken := hsplit.held hw rfl hmem
  -- of the members of the group fewer than all have started, so some are still queued
  have hqueued : .joins g size ∈ p.queue.map Prod.snd := by
    have hcalled := hm.called hsplit.discarded g
    have hall : members g p.accepted = size := by
      rw [← hcount, ← hsplit.accepted, List.countP_map, List.countP_reverse]
      rfl
    have hpos : 0 < members g p.queue := by
      rw [h.joining_eq_zero] at hcalled
      omega
    obtain ⟨a, ha, hmember⟩ := List.countP_pos_iff.mp hpos
    have hjob : a.2 ∈ jobs := by
      rw [hsplit.jobs_eq]
      exact List.mem_append_right _ (List.mem_map_of_mem ha)
    exact hblock a.2 hjob hmember ▸ List.mem_map_of_mem ha
  have hout : ∀ tasks : List Task, (∀ task ∈ tasks, task ∈ before ++ after) →
      .joins g size ∉ tasks := by
    intro tasks hsub hmem
    have hno := hnone _ (hsub _ hmem)
    simp [Task.isMember] at hno
  obtain ⟨j, htaken, hhead⟩ := exists_cut (hjobs.symm.trans hsplit.jobs_eq)
    (hout before fun _ => List.mem_append_left _) (hout after fun _ => List.mem_append_right _)
    htaken hqueued
  exact ⟨⟨before, j, htaken, hroom⟩, hhead⟩

/-- The queue has one head, so all workers that live wait for the same group; the others are
dead. -/
theorem Stuck.waiting_or_dead {taken : List Task} {i t g size : Nat} (h : Stuck p)
    (hs : Sound Task.load n jobs p) (hm : Mustered p) (hr : Roomy n jobs)
    (hsplit : Split jobs taken p) (hw : p.workers[i]? = some (.busy t (.waits g size)))
    (hlt : p.world.present g < size) :
    ∀ w ∈ p.workers, 1 ≤ w.waiting g + w.threat Task.load := by
  obtain ⟨-, hhead⟩ := h.cut hs hm hr hsplit hw hlt
  have hqueue : p.queue ≠ [] := by
    intro hnil
    rw [hnil] at hhead
    cases hhead
  intro w hmem
  cases halive : w.isAlive with
  | true =>
      obtain ⟨t', g', size', rfl, hlt'⟩ := h.waits w hmem halive
      obtain ⟨j, hj⟩ := List.mem_iff_getElem?.mp hmem
      obtain ⟨-, hhead'⟩ := h.cut hs hm hr hsplit hj hlt'
      obtain ⟨⟩ := Option.some.inj (hhead.symm.trans hhead')
      simp [Worker.waiting, Task.isWaiting]
  | false =>
      rcases Worker.ended_iff.mp halive with rfl | rfl
      · exact absurd hmem (hs.lifecycle.queue_live hqueue).1
      · exact Nat.le_add_left _ _

/-- Where each group finds room, a stuck pool has no worker that lives. -/
theorem Stuck.ended (h : Stuck p) (hs : Sound Task.load n jobs p) (hm : Mustered p)
    (hr : Roomy n jobs) (hlive : ∃ w ∈ p.workers, w ≠ .dead) :
    ∀ w ∈ p.workers, w.isAlive = false := by
  obtain ⟨taken, hsplit⟩ := exists_split hs h.closed hlive
  intro w hw
  cases halive : w.isAlive with
  | false => rfl
  | true =>
      exfalso
      obtain ⟨t, g, size, rfl, hlt⟩ := h.waits w hw halive
      obtain ⟨i, hi⟩ := List.mem_iff_getElem?.mp hw
      obtain ⟨⟨before, j, htaken, hroom⟩, -⟩ := h.cut hs hm hr hsplit hi hlt
      have hkills : taken.count .kills = before.count .kills := by
        rw [htaken, List.count_append, List.count_replicate]
        rfl
      -- the living are fewer than the members, and the dead no more than the killers before them
      have hsize := length_le_total (h.waiting_or_dead hs hm hr hsplit hi hlt)
      have hwaiting := hm.waiting g
      have hthreat := hs.threat
      rw [hs.lifecycle.size] at hsize
      rw [ThreatBounded, hsplit.killers_accepted, hkills] at hthreat
      omega

theorem Roomy.exists_ne_dead (hr : Roomy n jobs) (hs : Sound Task.load n jobs p) :
    ∃ w ∈ p.workers, w ≠ .dead := by
  refine hs.threat.exists_ne_dead ?_
  rw [hs.lifecycle.size, Task.killers_eq_count, ← List.count_reverse, ← List.map_reverse]
  refine Nat.lt_of_le_of_lt ?_ hr.kills
  exact ((List.sublist_append_left _ _).trans hs.orderly.sublist).count_le _

/-- A pool whose jobs find room moves on until its owner is through. -/
theorem Roomy.exists_step (hr : Roomy n jobs) (hs : Sound Task.load n jobs p)
    (hm : Mustered p) (hf : p.isFinished = false) : ∃ q, Step Task.load p q := by
  rcases hs.lifecycle.owner_cases hf with ⟨q, hq⟩ | ⟨hclosed, i, w, hw, halive⟩
  · exact ⟨q, .owner hq⟩
  · by_cases hstep : ∃ q, Step Task.load p q
    · exact hstep
    · have hstuck : Stuck p := by
        refine ⟨hclosed, fun w' hw' halive' => ?_⟩
        obtain ⟨i', hi'⟩ := List.mem_iff_getElem?.mp hw'
        by_cases hwaits : ∃ t task, w' = .busy t task ∧ Task.load.turn i' task p.world = none
        · obtain ⟨t, task, rfl, hturn⟩ := hwaits
          obtain ⟨g, size, rfl, hlt⟩ := Task.turn_eq_none_iff.mp hturn
          exact ⟨t, g, size, rfl, hlt⟩
        · obtain ⟨q, hq⟩ := exists_moveWorker hi' halive' hclosed fun t task hbusy hturn =>
            hwaits ⟨t, task, hbusy, hturn⟩
          exact absurd ⟨q, .worker i' hq⟩ hstep
      have hended := hstuck.ended hs hm hr (hr.exists_ne_dead hs) w (List.mem_of_getElem? hw)
      rw [halive] at hended
      cases hended

/-! ## What the owner submits -/

/-- What the owner submits in one go: a job that waits for no other, or a group. -/
inductive Submission where
  | returns
  | panics
  | kills
  | group (size : Nat)
deriving DecidableEq

namespace Submission

def tasks (id : Nat) : Submission → List Task
  | .returns => [.returns]
  | .panics => [.panics]
  | .kills => [.kills]
  | .group size => Task.group id size

/-- The jobs of all submissions; the groups are numbered by their places. -/
def allTasks : Nat → List Submission → List Task
  | _, [] => []
  | id, s :: rest => s.tasks id ++ allTasks (id + 1) rest

/-- Fewer killers than workers, and before no group so many that too few workers are left. -/
structure Fit (n : Nat) (subs : List Submission) : Prop where
  kills : subs.count .kills < n
  group : ∀ i size : Nat, subs[i]? = some (.group size) → (subs.take i).count .kills + size ≤ n

variable {subs : List Submission} {id : Nat}

theorem allTasks_append (before after : List Submission) :
    allTasks id (before ++ after) = allTasks id before ++ allTasks (id + before.length) after := by
  induction before generalizing id with
  | nil => rfl
  | cons s before ih =>
      rw [List.cons_append, allTasks, allTasks, ih, List.append_assoc, List.length_cons,
        Nat.add_right_comm, Nat.add_assoc]

theorem mem_allTasks {task : Task} (h : task ∈ allTasks id subs) :
    ∃ (i : Nat) (s : Submission), subs[i]? = some s ∧ task ∈ s.tasks (id + i) := by
  induction subs generalizing id with
  | nil => cases h
  | cons s subs ih =>
      rcases List.mem_append.mp h with h | h
      · exact ⟨0, s, rfl, h⟩
      · obtain ⟨i, s', hi, hmem⟩ := ih h
        refine ⟨i + 1, s', hi, ?_⟩
        rw [Nat.add_right_comm] at hmem
        exact hmem

theorem count_kills_allTasks : (allTasks id subs).count .kills = subs.count .kills := by
  induction subs generalizing id with
  | nil => rfl
  | cons s subs ih =>
      rw [allTasks, List.count_append, ih, List.count_cons, Nat.add_comm]
      congr 1
      cases s <;> simp [tasks, Task.group, List.count_replicate]

/-- Only a group has members, and it has its own number. -/
theorem of_isMember {task : Task} {g : Nat} {s : Submission} (h : task ∈ s.tasks id)
    (hmember : task.isMember g = true) :
    id = g ∧ ∃ size, s = .group size ∧ task = .joins g size := by
  cases s with
  | group size =>
      obtain rfl := List.eq_of_mem_replicate h
      obtain rfl : id = g := by simpa [Task.isMember] using hmember
      exact ⟨rfl, size, rfl, rfl⟩
  | _ =>
      obtain rfl := List.mem_singleton.mp h
      cases hmember

theorem allTasks_of_group {i size : Nat} (h : subs[i]? = some (.group size)) :
    allTasks id subs = allTasks id (subs.take i) ++ Task.group (id + i) size
      ++ allTasks (id + i + 1) (subs.drop (i + 1)) := by
  obtain ⟨hlt, hget⟩ := List.getElem?_eq_some_iff.mp h
  have hsubs : subs = subs.take i ++ .group size :: subs.drop (i + 1) := by
    rw [← hget, ← List.drop_eq_getElem_cons hlt, List.take_append_drop]
  have htake : (subs.take i).length = i := List.length_take_of_le (Nat.le_of_lt hlt)
  rw [List.append_assoc]
  conv_lhs => rw [hsubs, allTasks_append, htake]
  rfl

/-- The groups before a submission and after it have other numbers. -/
theorem isMember_of_others {i : Nat} {task : Task} (hi : i < subs.length)
    (h : task ∈ allTasks id (subs.take i) ++ allTasks (id + i + 1) (subs.drop (i + 1))) :
    task.isMember (id + i) = false := by
  rw [← Bool.not_eq_true]
  intro hmember
  rcases List.mem_append.mp h with hmem | hmem
  · obtain ⟨j, s, hj, hmem⟩ := mem_allTasks hmem
    have hlt := (List.getElem?_eq_some_iff.mp hj).1
    rw [List.length_take_of_le (Nat.le_of_lt hi)] at hlt
    have heq := (of_isMember hmem hmember).1
    omega
  · obtain ⟨j, s, -, hmem⟩ := mem_allTasks hmem
    have heq := (of_isMember hmem hmember).1
    omega

theorem Fit.roomy (h : Fit n subs) : Roomy n (allTasks id subs) where
  fresh task hmem g := by
    obtain ⟨i, s, -, hmem⟩ := mem_allTasks hmem
    cases s with
    | group size =>
        obtain rfl := List.eq_of_mem_replicate hmem
        rfl
    | _ =>
        obtain rfl := List.mem_singleton.mp hmem
        rfl
  kills := by
    rw [count_kills_allTasks]
    exact h.kills
  group g size hmem := by
    obtain ⟨i, s, hi, hmem⟩ := mem_allTasks hmem
    obtain ⟨rfl, size', rfl, heq⟩ := of_isMember hmem (Task.isMember_iff.mpr ⟨size, rfl⟩)
    obtain ⟨-, rfl⟩ := Task.joins.inj heq
    refine ⟨_, _, allTasks_of_group hi, fun task hmem => ?_, ?_⟩
    · exact isMember_of_others (List.getElem?_eq_some_iff.mp hi).1 hmem
    · rw [count_kills_allTasks]
      exact h.group i size hi

end Submission

/-! ## Whole runs -/

theorem Roomy.reaches (hr : Roomy n jobs) {start : Pool Task Task.Board}
    (hs : Sound Task.load n jobs start) (hm : Mustered start)
    (hreach : Reaches Task.load start p) : Sound Task.load n jobs p ∧ Mustered p := by
  refine hreach.keep (I := fun r => Sound Task.load n jobs r ∧ Mustered r) ⟨hs, hm⟩ ?_
  rintro r r' ⟨hs, hm⟩ hmove
  refine ⟨hs.step hmove, hm.step (fun a ha => ?_) hmove⟩
  exact hr.fresh a.2 (hs.accepted_mem (hs.ledger.queue_accepted ha))

/-- The owner is not through as long as a job is to be submitted or has not run. -/
theorem Roomy.unfinished (hr : Roomy n jobs) (hs : Sound Task.load n jobs p)
    (hleft : p.pending ≠ [] ∨ (∃ t < jobs.length, t ∉ p.done) ∨ p.isFinished = false) :
    p.isFinished = false := by
  cases hf : p.isFinished with
  | false => rfl
  | true =>
      exfalso
      obtain ⟨-, hdone⟩ := hs.complete hf (hr.exists_ne_dead hs)
      rcases hleft with hpending | ⟨t, hlt, hmiss⟩ | hunfinished
      · exact hpending (by rw [pending, List.isEmpty_iff.mp hf, List.filterMap_nil])
      · exact hmiss (hdone.mem_iff.mpr (List.mem_range.mpr hlt))
      · rw [hf] at hunfinished
        cases hunfinished

/-- When no thread can move, the owner is through and all jobs have run. -/
theorem Roomy.at_rest (hr : Roomy n jobs) (hs : Sound Task.load n jobs p) (hm : Mustered p)
    (hquiet : Quiet Task.load p) :
    p.isFinished = true ∧ p.refused = 0 ∧ p.accepted.reverse.map Prod.snd = jobs
      ∧ p.done.Perm (List.range jobs.length) := by
  have hlive := hr.exists_ne_dead hs
  cases hf : p.isFinished with
  | false =>
      obtain ⟨q, hq⟩ := hr.exists_step hs hm hf
      exact absurd hq (hquiet q)
  | true =>
      obtain ⟨haccepted, hdone⟩ := hs.complete hf hlive
      exact ⟨rfl, (hs.submitted hlive).1, haccepted, hdone⟩

/-- A pool never gets stuck on jobs that wait for each other, if each group finds room: whatever
the order of moves, some thread can move until all jobs have run to their end and the owner is
through, and every run comes to that. -/
theorem never_stuck {res : Resources} {pool : Pool Task Task.Board}
    (hpool : create Task.load n .empty res = .value pool) {subs : List Submission}
    (hfit : Submission.Fit n subs) {cmds : List (Command Task)}
    (hcmds : ∀ c ∈ cmds, c.job?.isSome = true)
    (hjobs : cmds.filterMap Command.job? = Submission.allTasks 0 subs) (finish : Finish) :
    let start := pool.instruct (cmds ++ finish.commands)
    let count := (Submission.allTasks 0 subs).length
    (∀ p, Reaches Task.load start p →
      (p.pending ≠ [] ∨ (∃ t < count, t ∉ p.done) ∨ p.isFinished = false) →
      ∃ q, Step Task.load p q)
    ∧ (∀ run : Nat → Pool Task Task.Board, run 0 = start →
      ¬ ∀ k, Step Task.load (run k) (run (k + 1)))
    ∧ (∀ p, Reaches Task.load start p → ∀ a ∈ p.executed, Ran Task.load start p a.1 a.2)
    ∧ ∀ p, Reaches Task.load start p → Quiet Task.load p →
      p.isFinished = true ∧ p.refused = 0
        ∧ p.accepted.reverse.map Prod.snd = Submission.allTasks 0 subs
        ∧ p.done.Perm (List.range count) := by
  obtain ⟨-, rfl⟩ := create_eq_value hpool
  have hr : Roomy n (Submission.allTasks 0 subs) := hfit.roomy
  have hstart : Sound Task.load n (Submission.allTasks 0 subs)
      (ofSize n (cmds ++ finish.commands) (Task.load.record (.started n) .empty)) := by
    rw [← hjobs]
    exact sound_ofSize hcmds finish n _
  have hinv : ∀ p, Reaches Task.load
      (ofSize n (cmds ++ finish.commands) (Task.load.record (.started n) .empty)) p →
      Sound Task.load n (Submission.allTasks 0 subs) p ∧ Mustered p := fun p hreach =>
    hr.reaches hstart (mustered_ofSize n _ fun _ => rfl) hreach
  refine ⟨?_, fun run _ => not_forever run, fun p hreach => (hstart.ran hreach).1, ?_⟩
  · intro p hreach hleft
    obtain ⟨hs, hm⟩ := hinv p hreach
    exact hr.exists_step hs hm (hr.unfinished hs hleft)
  · intro p hreach hquiet
    obtain ⟨hs, hm⟩ := hinv p hreach
    exact hr.at_rest hs hm hquiet

/-- Three workers: a group of three, a killer, a job that panics, and a group of two. -/
def gathering : List Submission :=
  [.group 3, .kills, .panics, .group 2, .returns]

theorem gathering_fit : Submission.Fit 3 gathering where
  kills := by decide
  group := by
    rintro (_ | _ | _ | _ | _ | i) size ⟨⟩ <;> decide

theorem never_stuck_on_gathering :
    ∃ pool, create Task.load 3 .empty = .value pool ∧
      ∀ p, Reaches Task.load (pool.instruct
          ((Submission.allTasks 0 gathering).map .submit ++ Finish.join.commands)) p →
        Quiet Task.load p → p.isFinished = true ∧ p.done.Perm (List.range 8) := by
  refine ⟨_, rfl, fun p hreach hquiet => ?_⟩
  have hjobs : ((Submission.allTasks 0 gathering).map Command.submit).filterMap Command.job?
      = Submission.allTasks 0 gathering := by decide
  obtain ⟨-, -, -, hrest⟩ := never_stuck (rfl : create Task.load 3 .empty = .value _)
    gathering_fit (by decide) hjobs .join
  obtain ⟨hf, -, -, hdone⟩ := hrest p hreach hquiet
  exact ⟨hf, hdone⟩

end Pool

end Liveness

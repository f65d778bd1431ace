import Liveness.Proofs.Pool.Conservation

/-!
# Which panics a pool keeps apart

A pool is to survive its jobs: as long as it is open all its workers live and it takes every
job, each job that panicked has its record, and when the owner is through every job has run.
This holds exactly as long as no job has ended its worker. So it holds at every moment of
every run if no such job is submitted, and if one is, it fails in some run.
-/

namespace Liveness

open Pool

namespace Task

/-- A task that waits for no other. -/
def isPlain : Task → Bool
  | .joins .. => false
  | .waits .. => false
  | _ => true

/-- Whether the task panics, caught or not. -/
def unwinds : Task → Bool
  | .panics => true
  | .kills => true
  | _ => false

/-- How many panics the pool has recorded of the jobs of a worker. -/
def Board.panics (b : Board) (worker : Nat) : Nat := b.notices.count (.jobPanicked worker)

theorem panics_record (event : Pool.Event) (b : Board) (worker : Nat) :
    (load.record event b).panics worker
      = b.panics worker + if event = .jobPanicked worker then 1 else 0 := by
  cases event <;> simp [load, Board.record, Board.panics, Notice.ofPool, List.count_cons]

/-- Only a task that waits for others takes more than one turn. -/
theorem remains_cases {start task : Task} (h : Remains load start task) :
    task = start ∨ ∃ id size, start = .joins id size ∧ task = .waits id size := by
  induction h with
  | all => exact .inl rfl
  | more hrem ht ih =>
      rename_i worker job rest world world'
      cases job with
      | returns => simp [load, Task.turn] at ht
      | panics => simp [load, Task.turn] at ht
      | kills => simp [load, Task.turn] at ht
      | waits id size => simp [load, Task.turn] at ht
      | joins id size =>
          obtain ⟨rfl, -⟩ : rest = .waits id size ∧ _ := by
            simpa [load, Task.turn, eq_comm] using ht
          rcases ih with rfl | ⟨_, _, -, heq⟩
          · exact .inr ⟨id, size, rfl, rfl⟩
          · cases heq

theorem countP_unwinds (tasks : List Task) :
    tasks.countP unwinds = tasks.count .panics + tasks.count .kills := by
  induction tasks with
  | nil => rfl
  | cons task tasks ih =>
      simp only [List.countP_cons, List.count_cons, ih]
      cases task <;> simp [unwinds] <;> omega

/-- The last turn of a task tells what the task is. -/
theorem turn_of_remains {i : Nat} {start task : Task} {turn : Turn Task}
    {board board' : Board} (hrem : Remains load start task)
    (ht : load.turn i task board = some (turn, board')) :
    board'.panics = board.panics ∧
      match turn with
      | .more _ => True
      | .finished => start ≠ .panics ∧ start ≠ .kills
      | .panicked => start = .panics
      | .fatal => start = .kills := by
  rcases remains_cases hrem with rfl | ⟨id, size, rfl, rfl⟩
  · cases task with
    | returns =>
        obtain ⟨rfl, rfl⟩ := Prod.mk.inj (Option.some.inj ht)
        exact ⟨rfl, by rintro ⟨⟩, by rintro ⟨⟩⟩
    | panics =>
        obtain ⟨rfl, rfl⟩ := Prod.mk.inj (Option.some.inj ht)
        exact ⟨rfl, rfl⟩
    | kills =>
        obtain ⟨rfl, rfl⟩ := Prod.mk.inj (Option.some.inj ht)
        exact ⟨rfl, rfl⟩
    | joins id size =>
        obtain ⟨rfl, rfl⟩ := Prod.mk.inj (Option.some.inj ht)
        exact ⟨rfl, trivial⟩
    | waits id size =>
        obtain ⟨-, rfl, rfl⟩ : _ ∧ .finished = turn ∧ board = board' := by
          simpa [load, Task.turn] using ht
        exact ⟨rfl, by rintro ⟨⟩, by rintro ⟨⟩⟩
  · obtain ⟨-, rfl, rfl⟩ : _ ∧ .finished = turn ∧ board = board' := by
      simpa [load, Task.turn] using ht
    exact ⟨rfl, by rintro ⟨⟩, by rintro ⟨⟩⟩

end Task

namespace Pool

variable {n : Nat} {board : Task.Board} {jobs : List Task}

section Views

variable {J W : Type} {load : Workload J W} {p q : Pool J W}

/-- The jobs that have run on a worker, the latest first. -/
def ranOn (p : Pool J W) (i : Nat) : List J :=
  p.executed.filterMap fun e => if e.2 = i then p.jobOf? e.1 else none

theorem Ledger.done_lt (h : Ledger p) {e : Nat × Nat} (he : e ∈ p.executed) :
    e.1 < p.accepted.length := by
  have hpos : 0 < p.done.count e.1 :=
    List.count_pos_iff.mpr (List.mem_map.mpr ⟨e, he, rfl⟩)
  exact h.place_lt (by unfold places; omega)

theorem Ledger.ranOn_enqueue (h : Ledger p) (job : J) (i : Nat) :
    (Pool.enqueue p job).ranOn i = p.ranOn i := by
  refine List.filterMap_congr fun e he => ?_
  rw [jobOf?_enqueue (h.done_lt he)]

theorem jobOf?_congr (h : q.accepted = p.accepted) (t : Nat) : q.jobOf? t = p.jobOf? t := by
  rw [jobOf?, jobOf?, h]

theorem ranOn_congr (ha : q.accepted = p.accepted) (he : q.executed = p.executed) (i : Nat) :
    q.ranOn i = p.ranOn i := by
  simp only [ranOn, he, jobOf?_congr ha]

theorem mem_ranOn {i : Nat} {job : J} (h : job ∈ p.ranOn i) :
    job ∈ p.accepted.map Prod.snd := by
  obtain ⟨e, -, he⟩ := List.mem_filterMap.mp h
  split at he
  · have hmem := List.mem_of_getElem? he
    rw [List.map_reverse] at hmem
    exact List.mem_reverse.mp hmem
  · cases he

end Views

variable {p q : Pool Task Task.Board}

/-- A pool that survives its jobs, at some moment; `board` is the board before it opened. -/
structure Isolated (board : Task.Board) (jobs : List Task) (p : Pool Task Task.Board) :
    Prop where
  alive : p.isOpen = true → ∀ w ∈ p.workers, w.isAlive = true
  accepting : p.isOpen = true → p.accepts = true
  recorded : ∀ i, p.world.panics i = board.panics i + (p.ranOn i).countP Task.unwinds
  complete : p.isFinished = true →
    p.accepted.reverse.map Prod.snd = jobs ∧ p.done.Perm (List.range jobs.length)

/-! ## The records and the dead -/

/-- The pool records the panics that it catches, and its dead are those that jobs killed. -/
structure Told (board : Task.Board) (p : Pool Task Task.Board) : Prop where
  caught : ∀ {i t : Nat}, p.workers[i]? = some (.caught t) → p.jobOf? t = some .panics
  told : ∀ i, p.world.panics i = board.panics i + (p.ranOn i).count .panics
  dead_iff : ∀ i, p.workers[i]? = some .dead ↔ .kills ∈ p.ranOn i

theorem told_ofSize (n : Nat) (script : List (Command Task)) (board : Task.Board) :
    Told board (ofSize n script (Task.load.record (.started n) board)) where
  caught hw := by cases List.eq_of_mem_replicate (List.mem_of_getElem? hw)
  told i := Task.panics_record (.started n) board i
  dead_iff i := by
    constructor
    · intro hw
      cases List.eq_of_mem_replicate (List.mem_of_getElem? hw)
    · intro hmem
      cases hmem

/-- A worker takes a new state between two jobs or in the middle of one. -/
theorem Told.set {i : Nat} {a b : Worker Task} (h : Told board p)
    (hw : p.workers[i]? = some a) (ha : a ≠ .dead) (hb : b ≠ .dead)
    (hcaught : ∀ t, b = .caught t → p.jobOf? t = some .panics)
    (hws : q.workers = p.workers.set i b) (hacc : q.accepted = p.accepted)
    (hex : q.executed = p.executed)
    (hworld : ∀ j, q.world.panics j = p.world.panics j) : Told board q := by
  refine ⟨?_, ?_, ?_⟩
  · intro j t hj
    rw [hws] at hj
    rw [jobOf?_congr hacc]
    rcases getElem?_set_cases hj with ⟨-, hj⟩ | ⟨-, hj⟩
    · exact hcaught t hj.symm
    · exact h.caught hj
  · intro j
    rw [hworld, ranOn_congr hacc hex]
    exact h.told j
  · intro j
    rw [ranOn_congr hacc hex, ← h.dead_iff j, hws]
    constructor
    · intro hj
      rcases getElem?_set_cases hj with ⟨-, hj⟩ | ⟨-, hj⟩
      · exact absurd hj.symm hb
      · exact hj
    · intro hj
      by_cases hij : i = j
      · subst hij
        exact absurd (Option.some.inj (hw.symm.trans hj)) ha
      · rw [List.getElem?_set_ne hij]
        exact hj

/-- The job that a worker has in hand has run. -/
theorem Told.complete {i t : Nat} {a b : Worker Task} {job : Task} (h : Told board p)
    (hw : p.workers[i]? = some a) (ha : a ≠ .dead) (hjob : p.jobOf? t = some job)
    (hb : b = .dead ∧ job = .kills ∨ b = .idle ∧ job ≠ .kills)
    (hws : q.workers = p.workers.set i b) (hacc : q.accepted = p.accepted)
    (hex : q.executed = (t, i) :: p.executed)
    (hworld : ∀ j, q.world.panics j
      = p.world.panics j + if j = i ∧ job = .panics then 1 else 0) : Told board q := by
  -- worker `i` has run one more job, and the others what they had run
  have hran : ∀ j, q.ranOn j = if i = j then job :: p.ranOn j else p.ranOn j := by
    intro j
    simp only [ranOn, hex, jobOf?_congr hacc, List.filterMap_cons, hjob]
    by_cases hij : i = j
    · simp only [if_pos hij]
    · simp only [if_neg hij]
  have hi : i < p.workers.length := (List.getElem?_eq_some_iff.mp hw).1
  refine ⟨?_, ?_, ?_⟩
  · intro j u hj
    rw [hws] at hj
    rw [jobOf?_congr hacc]
    rcases getElem?_set_cases hj with ⟨-, hj⟩ | ⟨-, hj⟩
    · rcases hb with ⟨rfl, -⟩ | ⟨rfl, -⟩ <;> cases hj
    · exact h.caught hj
  · intro j
    rw [hworld, hran, h.told j]
    by_cases hij : i = j
    · subst hij
      by_cases hp : job = .panics
      · simp [hp, Nat.add_assoc]
      · simp [hp]
    · have hji : j ≠ i := fun hji => hij hji.symm
      simp [hij, hji]
  · intro j
    rw [hran, hws]
    by_cases hij : i = j
    · subst hij
      rw [if_pos rfl, List.getElem?_set_self hi, List.mem_cons, ← h.dead_iff i, hw]
      rcases hb with ⟨rfl, rfl⟩ | ⟨rfl, hne⟩
      · simp
      · simp [ha, hne.symm]
    · rw [if_neg hij, List.getElem?_set_ne hij]
      exact h.dead_iff j

theorem Told.congr (h : Told board p) (hws : q.workers = p.workers)
    (hacc : q.accepted = p.accepted) (hex : q.executed = p.executed)
    (hworld : ∀ j, q.world.panics j = p.world.panics j) : Told board q := by
  refine ⟨?_, ?_, ?_⟩
  · intro i t hw
    rw [jobOf?_congr hacc]
    exact h.caught (hws ▸ hw)
  · intro j
    rw [hworld, ranOn_congr hacc hex]
    exact h.told j
  · intro j
    rw [hws, ranOn_congr hacc hex]
    exact h.dead_iff j

theorem Told.enqueue (h : Told board p) (hl : Ledger p) (job : Task) :
    Told board (Pool.enqueue p job) where
  caught {i t} hw := by
    rw [jobOf?_enqueue (hl.running_lt (mem_running hw rfl))]
    exact h.caught hw
  told i := by
    rw [hl.ranOn_enqueue]
    exact h.told i
  dead_iff i := by
    rw [hl.ranOn_enqueue]
    exact h.dead_iff i

/-- What a worker has in hand is what is left of the job with its ticket. -/
theorem Sound.jobOf?_busy (h : Sound Task.load n jobs p) {i t : Nat} {job : Task}
    (hw : p.workers[i]? = some (.busy t job)) :
    ∃ start, p.jobOf? t = some start ∧ Remains Task.load start job := by
  obtain ⟨start, hmem, hrem⟩ := h.custody i t job hw
  exact ⟨start, h.ledger.jobOf?_of_mem hmem, hrem⟩

theorem Told.step (h : Told board p) (hs : Sound Task.load n jobs p)
    (ht : Transition Task.load p q) : Told board q := by
  cases ht with
  | take hw =>
      exact h.set hw (by rintro ⟨⟩) (by rintro ⟨⟩) (by rintro _ ⟨⟩) rfl rfl rfl fun _ => rfl
  | stop hw =>
      exact h.set hw (by rintro ⟨⟩) (by rintro ⟨⟩) (by rintro _ ⟨⟩) rfl rfl rfl fun j =>
        Task.panics_record _ _ j
  | proceed hw ht =>
      obtain ⟨start, -, hrem⟩ := hs.jobOf?_busy hw
      obtain ⟨hboard, -⟩ := Task.turn_of_remains hrem ht
      refine h.set hw (by rintro ⟨⟩) (by rintro ⟨⟩) (by rintro _ ⟨⟩) rfl rfl rfl fun j => ?_
      dsimp only
      rw [hboard]
  | finish hw ht =>
      obtain ⟨start, hjob, hrem⟩ := hs.jobOf?_busy hw
      obtain ⟨hboard, hpanics, hkills⟩ := Task.turn_of_remains hrem ht
      refine h.complete hw (by rintro ⟨⟩) hjob (.inr ⟨rfl, hkills⟩) rfl rfl rfl fun j => ?_
      dsimp only
      rw [hboard, if_neg fun hp => hpanics hp.2]
      rfl
  | panic hw ht =>
      obtain ⟨start, hjob, hrem⟩ := hs.jobOf?_busy hw
      obtain ⟨hboard, hstart⟩ := Task.turn_of_remains hrem ht
      refine h.set hw (by rintro ⟨⟩) (by rintro ⟨⟩) ?_ rfl rfl rfl fun j => ?_
      · rintro t ⟨⟩
        rw [hjob, hstart]
      · dsimp only
        rw [hboard]
  | @recover i t hw =>
      refine h.complete hw (by rintro ⟨⟩) (h.caught hw) (.inr ⟨rfl, by rintro ⟨⟩⟩) rfl rfl rfl
        fun j => ?_
      rw [Task.panics_record]
      simp [eq_comm]
  | die hw ht =>
      obtain ⟨start, hjob, hrem⟩ := hs.jobOf?_busy hw
      obtain ⟨hboard, hstart⟩ := Task.turn_of_remains hrem ht
      refine h.complete hw (by rintro ⟨⟩) hjob (.inl ⟨rfl, hstart⟩) (bury_workers _ _)
        (bury_accepted _ _) (bury_executed _ _) fun j => ?_
      rw [bury_world]
      dsimp only
      rw [hboard, if_neg (by rintro ⟨-, rfl⟩; cases hstart)]
      rfl
  | @submit job rest =>
      exact Told.enqueue (p := { p with script := rest }) (h.congr rfl rfl rfl fun _ => rfl)
        { hs.ledger with } job
  | refuse => exact h.congr rfl rfl rfl fun _ => rfl
  | giveUp => exact h.congr rfl rfl rfl fun _ => rfl
  | close => exact h.congr rfl rfl rfl fun _ => rfl
  | await => exact h.congr rfl rfl rfl fun _ => rfl
  | awaitDead => exact h.congr rfl rfl rfl fun j => Task.panics_record _ _ j
  | leave => exact h.congr rfl rfl rfl fun _ => rfl

/-! ## The exact condition -/

/-- A pool survives its jobs at the moments at which no job has ended its worker. -/
theorem Told.isolated_iff_no_kills (h : Told board p) (hs : Sound Task.load n jobs p)
    (hn : 0 < n) : Isolated board jobs p ↔ ∀ i, .kills ∉ p.ranOn i := by
  constructor
  · intro hiso i hmem
    have hrec := hiso.recorded i
    rw [h.told i, Task.countP_unwinds] at hrec
    have hpos : 0 < (p.ranOn i).count .kills := List.count_pos_iff.mpr hmem
    omega
  · intro hnone
    have hdead : ∀ w ∈ p.workers, w ≠ .dead := by
      rintro w hw rfl
      obtain ⟨i, hi⟩ := List.mem_iff_getElem?.mp hw
      exact hnone i ((h.dead_iff i).mp hi)
    have hlive : ∃ w ∈ p.workers, w ≠ .dead := by
      obtain ⟨w, hw⟩ := hs.lifecycle.exists_mem hn
      exact ⟨w, hw, hdead w hw⟩
    have halive : p.isOpen = true → ∀ w ∈ p.workers, w.isAlive = true := by
      intro hopen w hw
      cases ha : w.isAlive with
      | true => rfl
      | false =>
          rcases Worker.ended_iff.mp ha with rfl | rfl
          · exact absurd hw (hs.lifecycle.open_live hopen)
          · exact absurd rfl (hdead _ hw)
    refine ⟨halive, ?_, ?_, fun hf => hs.complete hf hlive⟩
    · intro hopen
      obtain ⟨w, hw, -⟩ := hlive
      exact accepts_eq_true_iff.mpr ⟨hopen, w, hw, halive hopen w hw⟩
    · intro i
      rw [h.told i, Task.countP_unwinds, List.count_eq_zero.mpr (hnone i), Nat.add_zero]

/-! ## A run in which a job ends its worker -/

/-- The first worker waits for a job, and none is queued. -/
structure Serving (p : Pool Task Task.Board) : Prop where
  isOpen : p.isOpen = true
  queue : p.queue = []
  idle : p.workers[0]? = some .idle

/-- The owner submits a job and the first worker takes it. -/
theorem Serving.take (h : Serving p) {c : Command Task} {rest : List (Command Task)}
    {job : Task} (hs : p.script = c :: rest) (hc : c.job? = some job) :
    ∃ t q, Reaches Task.load p q ∧ q.isOpen = true ∧ q.queue = [] ∧ q.script = rest
      ∧ q.workers[0]? = some (.busy t job) := by
  have ha : p.accepts = true :=
    accepts_eq_true_iff.mpr ⟨h.isOpen, .idle, List.mem_of_getElem? h.idle, rfl⟩
  have hpos : 0 < p.workers.length := (List.getElem?_eq_some_iff.mp h.idle).1
  have hsubmit : Step Task.load p (enqueue { p with script := rest } job) :=
    .owner (moveOwner_of_accepts hs hc ha)
  have htake : Step Task.load (enqueue { p with script := rest } job)
      { enqueue { p with script := rest } job with
        queue := [], workers := p.workers.set 0 (.busy p.nextTicket job) } := by
    refine .worker 0 ?_
    simp only [moveWorker, enqueue, h.idle, h.queue, List.nil_append]
    rfl
  exact ⟨p.nextTicket, _, .next (.next .refl hsubmit) htake, h.isOpen, rfl, rfl,
    List.getElem?_set_self hpos⟩

/-- A job that does not end its worker leaves the pool as it found it. -/
theorem Serving.serve (h : Serving p) {c : Command Task} {rest : List (Command Task)}
    {job : Task} (hs : p.script = c :: rest) (hc : c.job? = some job)
    (hplain : job.isPlain = true) (hne : job ≠ .kills) :
    ∃ q, Reaches Task.load p q ∧ Serving q ∧ q.script = rest := by
  obtain ⟨t, q, hq, hopen, hqueue, hscript, hbusy⟩ := h.take hs hc
  have hpos : 0 < q.workers.length := (List.getElem?_eq_some_iff.mp hbusy).1
  cases job with
  | joins => cases hplain
  | waits => cases hplain
  | kills => exact absurd rfl hne
  | returns =>
      have hturn : Step Task.load q { q with
          workers := q.workers.set 0 .idle, executed := (t, 0) :: q.executed } := by
        refine .worker 0 ?_
        simp only [moveWorker, hbusy]
        rfl
      exact ⟨_, .next hq hturn, ⟨hopen, hqueue, List.getElem?_set_self hpos⟩, hscript⟩
  | panics =>
      have hturn : Step Task.load q { q with workers := q.workers.set 0 (.caught t) } := by
        refine .worker 0 ?_
        simp only [moveWorker, hbusy]
        rfl
      have hrecover : Step Task.load { q with workers := q.workers.set 0 (.caught t) }
          { q with
            workers := (q.workers.set 0 (.caught t)).set 0 .idle
            world := Task.load.record (.jobPanicked 0) q.world
            executed := (t, 0) :: q.executed } := by
        refine .worker 0 ?_
        simp only [moveWorker, List.getElem?_set_self hpos]
      refine ⟨_, .next (.next hq hturn) hrecover, ⟨hopen, hqueue, ?_⟩, hscript⟩
      exact List.getElem?_set_self (by rw [List.length_set]; exact hpos)

theorem Serving.kill (h : Serving p) {c : Command Task} {rest : List (Command Task)}
    (hs : p.script = c :: rest) (hc : c.job? = some .kills) :
    ∃ q, Reaches Task.load p q ∧ q.isOpen = true ∧ q.workers[0]? = some .dead := by
  obtain ⟨t, q, hq, hopen, -, -, hbusy⟩ := h.take hs hc
  have hpos : 0 < q.workers.length := (List.getElem?_eq_some_iff.mp hbusy).1
  have hdie : Step Task.load q (bury { q with executed := (t, 0) :: q.executed } 0) := by
    refine .worker 0 ?_
    simp only [moveWorker, hbusy]
    rfl
  refine ⟨_, .next hq hdie, ?_, ?_⟩
  · rw [bury_isOpen]
    exact hopen
  · rw [bury_workers]
    exact List.getElem?_set_self hpos

/-- With each job served at once, a job that ends its worker gets its turn. -/
theorem Serving.exists_dead {cmds rest : List (Command Task)} (h : Serving p)
    (hs : p.script = cmds ++ rest) (hcmds : ∀ c ∈ cmds, c.job?.isSome = true)
    (hplain : ∀ job ∈ cmds.filterMap Command.job?, job.isPlain = true)
    (hkills : .kills ∈ cmds.filterMap Command.job?) :
    ∃ q, Reaches Task.load p q ∧ q.isOpen = true ∧ q.workers[0]? = some .dead := by
  induction cmds generalizing p with
  | nil => cases hkills
  | cons c cmds ih =>
      obtain ⟨job, hc⟩ := Option.isSome_iff_exists.mp (hcmds c (List.mem_cons_self ..))
      rw [List.filterMap_cons, hc] at hplain hkills
      -- each job is served before the next is submitted, up to the first that kills
      by_cases hjob : job = .kills
      · subst hjob
        exact h.kill hs hc
      · obtain ⟨q, hq, hserve, hqs⟩ := h.serve hs hc (hplain job (List.mem_cons_self ..)) hjob
        have hmem := (List.mem_cons.mp hkills).resolve_left fun heq => hjob heq.symm
        obtain ⟨r, hr, hdead⟩ := ih hserve hqs
          (fun c hc => hcmds c (List.mem_cons_of_mem _ hc))
          (fun job hjob => hplain job (List.mem_cons_of_mem _ hjob)) hmem
        exact ⟨r, hq.trans hr, hdead⟩

theorem serving_ofSize (hn : 0 < n) (script : List (Command Task)) (board : Task.Board) :
    Serving (ofSize n script board) where
  isOpen := rfl
  queue := rfl
  idle := by simp [ofSize, hn]

/-- A pool survives its jobs exactly up to the first that ends its worker: a job whose panic
gets past the worker, which no worker survives and which leaves no record. -/
theorem isolated_iff {res : Resources} {pool : Pool Task Task.Board}
    (hpool : create Task.load n board res = .value pool) {cmds : List (Command Task)}
    (hcmds : ∀ c ∈ cmds, c.job?.isSome = true) (finish : Finish) :
    (∀ p, Reaches Task.load (pool.instruct (cmds ++ finish.commands)) p →
      (Isolated board (cmds.filterMap Command.job?) p ↔ ∀ i, .kills ∉ p.ranOn i))
    ∧ (.kills ∉ cmds.filterMap Command.job? →
      ∀ p, Reaches Task.load (pool.instruct (cmds ++ finish.commands)) p →
        Isolated board (cmds.filterMap Command.job?) p)
    ∧ (.kills ∈ cmds.filterMap Command.job? →
      (∀ job ∈ cmds.filterMap Command.job?, job.isPlain = true) →
      ∃ p, Reaches Task.load (pool.instruct (cmds ++ finish.commands)) p ∧
        ¬ Isolated board (cmds.filterMap Command.job?) p) := by
  obtain ⟨hn, rfl⟩ := create_eq_value hpool
  have hinv : ∀ p, Reaches Task.load
      (ofSize n (cmds ++ finish.commands) (Task.load.record (.started n) board)) p →
      Sound Task.load n (cmds.filterMap Command.job?) p ∧ Told board p := by
    intro p hr
    have hsound : Sound Task.load n (cmds.filterMap Command.job?) _ :=
      sound_ofSize hcmds finish n (Task.load.record (.started n) board)
    have htold := told_ofSize n (cmds ++ finish.commands) board
    refine hr.keep (I := fun r => Sound Task.load n _ r ∧ Told board r) ⟨hsound, htold⟩ ?_
    rintro r r' ⟨hs, ht⟩ hmove
    exact ⟨hs.step hmove, ht.step hs hmove⟩
  refine ⟨?_, ?_, ?_⟩
  · intro p hr
    obtain ⟨hs, ht⟩ := hinv p hr
    exact ht.isolated_iff_no_kills hs hn
  · intro hnone p hr
    obtain ⟨hs, ht⟩ := hinv p hr
    refine (ht.isolated_iff_no_kills hs hn).mpr fun i hmem => hnone ?_
    obtain ⟨a, ha, heq⟩ := List.mem_map.mp (mem_ranOn hmem)
    exact heq ▸ hs.accepted_mem ha
  · intro hkills hplain
    obtain ⟨p, hr, hopen, hdead⟩ :=
      (serving_ofSize hn _ (Task.load.record (.started n) board)).exists_dead rfl hcmds
        hplain hkills
    refine ⟨p, hr, fun hiso => ?_⟩
    cases hiso.alive hopen _ (List.mem_of_getElem? hdead)

/-- One worker, and a job that ends it before a job that returns. -/
theorem not_isolated_past_a_kill :
    ∃ pool, create Task.load 1 .empty = .value pool ∧
      ∃ p, Reaches Task.load
          (pool.instruct ([.submit .kills, .submit .returns] ++ Finish.join.commands)) p ∧
        ¬ Isolated .empty [.kills, .returns] p := by
  have hcmds : ∀ c ∈ ([.submit .kills, .submit .returns] : List (Command Task)),
      c.job?.isSome = true := by decide
  obtain ⟨-, -, hfails⟩ :=
    isolated_iff (rfl : create Task.load 1 .empty = .value _) hcmds .join
  exact ⟨_, rfl, hfails (by decide) (by decide)⟩

end Pool

end Liveness

import Liveness.Proofs.Pool.Mortality

/-!
# Whose job is in whose hands

The job that a worker has in hand is what is left of the accepted job with the same ticket.
And an assertion about single jobs can be carried through a whole run: if the turns of a
job keep its own assertion and touch no other's, then at every moment each job's assertion
holds, whether the job waits, is in hand, or is over.

A job counts as run only if it was taken to its end: at some move before, the worker that had it in
hand made its last turn.
-/

namespace Liveness

namespace Pool

variable {J W : Type} {load : Workload J W} {n : Nat} {p q : Pool J W} {jobs : List J}

/-! ## What is left of a job -/

/-- After some turns, `job` is what is left of `start`. -/
inductive Remains (load : Workload J W) (start : J) : J → Prop where
  | all : Remains load start start
  | more {worker : Nat} {job rest : J} {world world' : W} : Remains load start job →
      load.turn worker job world = some (.more rest, world') → Remains load start rest

def Custody (load : Workload J W) (p : Pool J W) : Prop :=
  ∀ (i t : Nat) (job : J), p.workers[i]? = some (.busy t job) →
    ∃ start, (t, start) ∈ p.accepted ∧ Remains load start job

theorem custody_ofSize (n : Nat) (script : List (Command J)) (world : W) :
    Custody load (ofSize n script world) := by
  intro i t job hw
  cases List.eq_of_mem_replicate (List.mem_of_getElem? hw)

/-- Where a worker takes a new state, its job must be accounted for; the others are. -/
theorem Custody.set {i : Nat} {b : Worker J} (h : Custody load p)
    (hws : q.workers = p.workers.set i b) (ha : q.accepted = p.accepted)
    (hb : ∀ t job, b = .busy t job →
      ∃ start, (t, start) ∈ p.accepted ∧ Remains load start job) : Custody load q := by
  intro j t job hj
  rw [hws] at hj
  rw [ha]
  rcases getElem?_set_cases hj with ⟨-, hj⟩ | ⟨-, hj⟩
  · exact hb t job hj.symm
  · exact h j t job hj

theorem Custody.step (h : Custody load p) (hl : Ledger p) (ht : Transition load p q) :
    Custody load q := by
  cases ht with
  | @take i ticket job rest hw hq =>
      refine h.set rfl rfl ?_
      rintro t job' ⟨⟩
      exact ⟨job, hl.queue_accepted (by rw [hq]; exact List.mem_cons_self ..), .all⟩
  | stop => exact h.set rfl rfl (by rintro _ _ ⟨⟩)
  | proceed hw ht =>
      refine h.set rfl rfl ?_
      rintro t rest ⟨⟩
      obtain ⟨start, hmem, hrem⟩ := h _ _ _ hw
      exact ⟨start, hmem, .more hrem ht⟩
  | finish => exact h.set rfl rfl (by rintro _ _ ⟨⟩)
  | panic => exact h.set rfl rfl (by rintro _ _ ⟨⟩)
  | recover => exact h.set rfl rfl (by rintro _ _ ⟨⟩)
  | die => exact h.set (bury_workers _ _) (bury_accepted _ _) (by rintro _ _ ⟨⟩)
  | submit =>
      intro i t job hw
      obtain ⟨start, hmem, hrem⟩ := h _ _ _ hw
      exact ⟨start, List.mem_cons_of_mem _ hmem, hrem⟩
  | refuse => exact h
  | giveUp => exact h
  | close => exact h
  | await => exact h
  | awaitDead => exact h
  | leave => exact h

/-! ## The last turn of a job -/

/-- Whether a turn leaves nothing of its job. -/
def Turn.isLast : Turn J → Bool
  | .more _ => false
  | _ => true

/-- By the move from `p` to `q`, worker `i` makes the last turn of the accepted job with ticket
`t`. -/
def LastTurn (load : Workload J W) (p q : Pool J W) (t i : Nat) : Prop :=
  ∃ start job turn, (t, start) ∈ p.accepted ∧ Remains load start job
    ∧ p.workers[i]? = some (.busy t job) ∧ load.turn i job p.world = some (turn, q.world)
    ∧ turn.isLast = true

theorem Custody.lastTurn {i t : Nat} {job : J} {turn : Turn J} (h : Custody load p)
    (hw : p.workers[i]? = some (.busy t job))
    (ht : load.turn i job p.world = some (turn, q.world)) (hlast : turn.isLast = true) :
    LastTurn load p q t i := by
  obtain ⟨start, hmem, hrem⟩ := h i t job hw
  exact ⟨start, job, turn, hmem, hrem, hw, ht, hlast⟩

/-- What has run after a move had run before, or its panic had been caught, or the move is its
last turn. -/
theorem Transition.executed_cases (ht : Transition load p q) (h : Custody load p) :
    ∀ a ∈ q.executed, a ∈ p.executed ∨ p.workers[a.2]? = some (.caught a.1)
      ∨ LastTurn load p q a.1 a.2 := by
  have hkept : ∀ a ∈ p.executed, a ∈ p.executed ∨ p.workers[a.2]? = some (.caught a.1)
      ∨ LastTurn load p q a.1 a.2 := fun _ ha => .inl ha
  cases ht with
  | finish hw ht =>
      intro a ha
      rcases List.mem_cons.mp ha with rfl | ha
      · exact .inr (.inr (h.lastTurn hw ht rfl))
      · exact hkept a ha
  | recover hw =>
      intro a ha
      rcases List.mem_cons.mp ha with rfl | ha
      · exact .inr (.inl hw)
      · exact hkept a ha
  | @die i ticket job world hw ht =>
      intro a ha
      rw [bury_executed] at ha
      rcases List.mem_cons.mp ha with rfl | ha
      · exact .inr (.inr (h.lastTurn hw (by rw [bury_world]; exact ht) rfl))
      · exact hkept a ha
  | _ => exact hkept

/-- A panic that is caught after a move had been caught before, or the move is the last turn of its
job. -/
theorem Transition.caught_cases (ht : Transition load p q) (h : Custody load p) {i t : Nat}
    (hq : q.workers[i]? = some (.caught t)) :
    p.workers[i]? = some (.caught t) ∨ LastTurn load p q t i := by
  have hset : ∀ {j : Nat} {b : Worker J}, b ≠ .caught t →
      (p.workers.set j b)[i]? = some (.caught t) → p.workers[i]? = some (.caught t) := by
    intro j b hb hj
    rcases getElem?_set_cases hj with ⟨-, heq⟩ | ⟨-, hj⟩
    · exact absurd heq.symm hb
    · exact hj
  cases ht with
  | panic hw ht =>
      rcases getElem?_set_cases hq with ⟨rfl, ⟨⟩⟩ | ⟨-, hq⟩
      · exact .inr (h.lastTurn hw ht rfl)
      · exact .inl hq
  | die =>
      rw [bury_workers] at hq
      exact .inl (hset (by rintro ⟨⟩) hq)
  | take => exact .inl (hset (by rintro ⟨⟩) hq)
  | stop => exact .inl (hset (by rintro ⟨⟩) hq)
  | proceed => exact .inl (hset (by rintro ⟨⟩) hq)
  | finish => exact .inl (hset (by rintro ⟨⟩) hq)
  | recover => exact .inl (hset (by rintro ⟨⟩) hq)
  | _ => exact .inl hq

/-- On the way from `p` to `q`, worker `i` took the job with ticket `t` to its end. -/
def Ran (load : Workload J W) (p q : Pool J W) (t i : Nat) : Prop :=
  ∃ r r', Reaches load p r ∧ Step load r r' ∧ LastTurn load r r' t i ∧ Reaches load r' q

theorem Ran.next {r : Pool J W} {t i : Nat} (h : Ran load p q t i) (hstep : Step load q r) :
    Ran load p r t i := by
  obtain ⟨r₁, r₂, hr₁, hturn, hlast, hr₂⟩ := h
  exact ⟨r₁, r₂, hr₁, hturn, hlast, hr₂.next hstep⟩

/-! ## All invariants together -/

structure Sound (load : Workload J W) (n : Nat) (jobs : List J) (p : Pool J W) : Prop where
  lifecycle : Lifecycle n p
  ledger : Ledger p
  orderly : Orderly jobs p
  threat : ThreatBounded load p
  refusal : RefusedByDead p
  custody : Custody load p

theorem Sound.step (h : Sound load n jobs p) (ht : Transition load p q) :
    Sound load n jobs q where
  lifecycle := h.lifecycle.step ht
  ledger := h.ledger.step h.lifecycle ht
  orderly := h.orderly.step ht
  threat := h.threat.step ht
  refusal := h.refusal.step h.lifecycle h.orderly ht
  custody := h.custody.step h.ledger ht

theorem sound_ofSize {cmds : List (Command J)} (hc : ∀ c ∈ cmds, c.job?.isSome = true)
    (finish : Finish) (n : Nat) (world : W) :
    Sound load n (cmds.filterMap Command.job?)
      (ofSize n (cmds ++ finish.commands) world) where
  lifecycle := lifecycle_ofSize _ _ _
  ledger := ledger_ofSize _ _ _
  orderly := orderly_ofSize hc finish n world
  threat := threatBounded_ofSize _ _ _
  refusal hr := absurd rfl hr
  custody := custody_ofSize _ _ _

theorem Sound.reaches (h : Sound load n jobs p) (hr : Reaches load p q) :
    Sound load n jobs q :=
  hr.keep h Sound.step

/-- What a sound pool keeps, it keeps in every run. -/
theorem Sound.keep {I : Pool J W → Prop} (h : Sound load n jobs p) (hr : Reaches load p q)
    (hp : I p) (hkeep : ∀ {r r'}, Sound load n jobs r → I r → Transition load r r' → I r') :
    I q := by
  refine (hr.keep (I := fun r => Sound load n jobs r ∧ I r) ⟨h, hp⟩ ?_).2
  rintro r r' ⟨hs, hr⟩ ht
  exact ⟨hs.step ht, hkeep hs hr ht⟩

/-- In a run from a new pool, what counts as run was taken to its end, and so was every job whose
panic is caught. -/
theorem Sound.ran {script : List (Command J)} {world : W}
    (h : Sound load n jobs (ofSize n script world))
    (hr : Reaches load (ofSize n script world) p) :
    (∀ a ∈ p.executed, Ran load (ofSize n script world) p a.1 a.2)
      ∧ ∀ i t, p.workers[i]? = some (.caught t) → Ran load (ofSize n script world) p t i := by
  induction hr with
  | refl =>
      refine ⟨fun a ha => (List.not_mem_nil ha).elim, fun i t hw => ?_⟩
      cases List.eq_of_mem_replicate (List.mem_of_getElem? hw)
  | @next q r hr hstep ih =>
      obtain ⟨hexecuted, hcaught⟩ := ih
      have hmove := transition_of_step hstep
      have hcustody := (h.reaches hr).custody
      have hlast : ∀ {t i}, LastTurn load q r t i → Ran load (ofSize n script world) r t i :=
        fun hlast => ⟨q, r, hr, hstep, hlast, .refl⟩
      constructor
      · intro a ha
        rcases hmove.executed_cases hcustody a ha with hbefore | hw | hturn
        · exact (hexecuted a hbefore).next hstep
        · exact (hcaught _ _ hw).next hstep
        · exact hlast hturn
      · intro i t hw
        rcases hmove.caught_cases hcustody hw with hbefore | hturn
        · exact (hcaught i t hbefore).next hstep
        · exact hlast hturn

/-- When the owner is through, every worker has ended. -/
theorem Sound.ended (h : Sound load n jobs p) (hf : p.isFinished = true) :
    ∀ w ∈ p.workers, w.isAlive = false :=
  h.lifecycle.ended (h.orderly.through (List.isEmpty_iff.mp hf)).2

theorem Sound.accepted_mem (h : Sound load n jobs p) {a : Nat × J} (ha : a ∈ p.accepted) :
    a.2 ∈ jobs := by
  refine h.orderly.sublist.subset (List.mem_append_left _ ?_)
  exact List.mem_map.mpr ⟨a, List.mem_reverse.mpr ha, rfl⟩

/-- As long as some worker has not died, the accepted jobs are those submitted so far. -/
theorem Sound.submitted (h : Sound load n jobs p) (hlive : ∃ w ∈ p.workers, w ≠ .dead) :
    p.refused = 0 ∧ p.accepted.reverse.map Prod.snd ++ p.pending = jobs := by
  have hr : p.refused = 0 := by
    by_cases hr : p.refused = 0
    · exact hr
    · obtain ⟨w, hw, hne⟩ := hlive
      exact absurd (h.refusal hr w hw) hne
  exact ⟨hr, h.orderly.submitted hr⟩

/-- As long as some worker has not died, no job is lost. -/
theorem Sound.discarded_eq_nil (h : Sound load n jobs p) (hlive : ∃ w ∈ p.workers, w ≠ .dead) :
    p.discarded = [] := by
  by_cases hd : p.discarded = []
  · exact hd
  · obtain ⟨w, hw, hne⟩ := hlive
    exact absurd (h.lifecycle.lost_dead hd w hw) hne

/-- When the owner is through and some worker has not died, every accepted job has run. -/
theorem Sound.done_perm (h : Sound load n jobs p) (hf : p.isFinished = true)
    (hlive : ∃ w ∈ p.workers, w ≠ .dead) : p.done.Perm (p.accepted.map Prod.fst) := by
  have hend := h.ended hf
  exact h.ledger.done_perm (h.lifecycle.queue_eq_nil hend) (running_eq_nil hend)
    (h.discarded_eq_nil hlive)

/-- When the owner is through and some worker has not died, all jobs have been accepted and have
run. -/
theorem Sound.complete (h : Sound load n jobs p) (hf : p.isFinished = true)
    (hlive : ∃ w ∈ p.workers, w ≠ .dead) :
    p.accepted.reverse.map Prod.snd = jobs ∧ p.done.Perm (List.range jobs.length) := by
  have hjobs := (h.submitted hlive).2
  rw [pending, List.isEmpty_iff.mp hf, List.filterMap_nil, List.append_nil] at hjobs
  refine ⟨hjobs, ?_⟩
  have hperm := h.done_perm hf hlive
  rw [h.ledger.tickets] at hperm
  rw [← hjobs, List.length_map, List.length_reverse]
  exact hperm.trans (List.reverse_perm _)

/-- As long as some worker has not died, tickets number the jobs as they are submitted. -/
theorem Sound.jobs_getElem? (h : Sound load n jobs p) (hlive : ∃ w ∈ p.workers, w ≠ .dead)
    {t : Nat} {job : J} (hmem : (t, job) ∈ p.accepted) : jobs[t]? = some job := by
  have hjob := h.ledger.jobOf?_of_mem hmem
  have hlt := (List.getElem?_eq_some_iff.mp hjob).1
  rw [← (h.submitted hlive).2, List.getElem?_append_left hlt]
  exact hjob

/-- Where no job may kill, some worker lives until it stops. -/
theorem Sound.exists_ne_dead (h : Sound load n jobs p) (hn : 0 < n)
    (hk : ∀ job ∈ jobs, ¬ MayKill load job) : ∃ w ∈ p.workers, w ≠ .dead := by
  obtain ⟨w, hw⟩ := h.lifecycle.exists_mem hn
  refine ⟨w, hw, ?_⟩
  rintro rfl
  exact h.threat.not_dead (fun a ha => hk a.2 (h.accepted_mem ha)) hw

/-! ## Assertions about single jobs -/

/-- How far a job has come, as far as the pool knows. -/
inductive Place (J : Type) where
  /-- not yet accepted, or queued -/
  | waiting
  | inHand (job : J)
  | ended

/-- How far a job has come after a turn. -/
def Place.after : Turn J → Place J
  | .more rest => .inHand rest
  | _ => .ended

/-- `own t place world` is an assertion about the job with ticket `t`. It is kept when its
own job makes a turn, and when another job or the pool itself does something. -/
structure Separate (load : Workload J W) (own : Nat → Place J → W → Prop)
    (fits : Nat → J → Prop) : Prop where
  taken : ∀ {t job world}, fits t job → own t .waiting world → own t (.inHand job) world
  turn : ∀ {t i job turn world world'}, own t (.inHand job) world →
    load.turn i job world = some (turn, world') → own t (.after turn) world'
  frame : ∀ {t t' i job turn place world world'}, t ≠ t' → own t (.inHand job) world →
    load.turn i job world = some (turn, world') → own t' place world → own t' place world'
  record : ∀ {t place world} (event : Event), own t place world →
    own t place (load.record event world)

/-- Each job's assertion holds. -/
structure Owned (own : Nat → Place J → W → Prop) (p : Pool J W) : Prop where
  future : ∀ {t}, p.accepted.length ≤ t → own t .waiting p.world
  queued : ∀ {t job}, (t, job) ∈ p.queue → own t .waiting p.world
  busy : ∀ {i t : Nat} {job : J}, p.workers[i]? = some (.busy t job) →
    own t (.inHand job) p.world
  caught : ∀ {i t : Nat}, p.workers[i]? = some (.caught t) → own t .ended p.world
  done : ∀ {t}, t ∈ p.done → own t .ended p.world

variable {own : Nat → Place J → W → Prop} {fits : Nat → J → Prop}

theorem owned_ofSize {n : Nat} {script : List (Command J)} {world : W}
    (h : ∀ t, own t .waiting world) : Owned own (ofSize n script world) where
  future _ := h _
  queued hmem := by cases hmem
  busy hw := by cases List.eq_of_mem_replicate (List.mem_of_getElem? hw)
  caught hw := by cases List.eq_of_mem_replicate (List.mem_of_getElem? hw)
  done hmem := by cases hmem

/-- The pool records something. -/
theorem Owned.record (h : Owned own p) (hs : Separate load own fits) (event : Event) :
    Owned own { p with world := load.record event p.world } where
  future ht := hs.record event (h.future ht)
  queued hmem := hs.record event (h.queued hmem)
  busy hw := hs.record event (h.busy hw)
  caught hw := hs.record event (h.caught hw)
  done hmem := hs.record event (h.done hmem)

/-- A worker without a job in hand takes its place. -/
theorem Owned.vacate {i : Nat} {b : Worker J} (h : Owned own p) (hb : b.ticket? = none) :
    Owned own { p with workers := p.workers.set i b } := by
  have hother : ∀ {j : Nat} {w : Worker J}, (p.workers.set i b)[j]? = some w →
      w.ticket? ≠ none → p.workers[j]? = some w := by
    intro j w hj hw
    rcases getElem?_set_cases hj with ⟨-, rfl⟩ | ⟨-, hj⟩
    · exact absurd hb hw
    · exact hj
  refine { h with busy := ?_, caught := ?_ }
  · intro j t job hj
    exact h.busy (hother hj (by rintro ⟨⟩))
  · intro j t hj
    exact h.caught (hother hj (by rintro ⟨⟩))

theorem Owned.take {i ticket : Nat} {job : J} {rest : List (Nat × J)} (h : Owned own p)
    (hs : Separate load own fits) (hfit : fits ticket job)
    (hq : p.queue = (ticket, job) :: rest) :
    Owned own { p with queue := rest, workers := p.workers.set i (.busy ticket job) } := by
  refine { h with queued := ?_, busy := ?_, caught := ?_ }
  · intro t job' hmem
    exact h.queued (by rw [hq]; exact List.mem_cons_of_mem _ hmem)
  · intro j t job' hj
    rcases getElem?_set_cases hj with ⟨-, ⟨⟩⟩ | ⟨-, hj⟩
    · exact hs.taken hfit (h.queued (by rw [hq]; exact List.mem_cons_self ..))
    · exact h.busy hj
  · intro j t hj
    rcases getElem?_set_cases hj with ⟨-, ⟨⟩⟩ | ⟨-, hj⟩
    exact h.caught hj

/-- The jobs other than the one in hand of worker `i` keep their assertions when it makes
a turn; with the worker set idle, only they are in the hands of workers. -/
theorem Owned.turn_others {i ticket : Nat} {job : J} {turn : Turn J} {world : W}
    (h : Owned own p) (hs : Separate load own fits) (hl : Ledger p)
    (hw : p.workers[i]? = some (.busy ticket job))
    (ht : load.turn i job p.world = some (turn, world)) :
    Owned own { p with world, workers := p.workers.set i .idle } := by
  have hrun : ticket ∈ p.running := mem_running hw rfl
  have hframe : ∀ {t place}, ticket ≠ t → own t place p.world → own t place world :=
    fun hne => hs.frame hne (h.busy hw) ht
  have hother : ∀ {j t : Nat} {w : Worker J}, (p.workers.set i .idle)[j]? = some w →
      w.ticket? = some t → ticket ≠ t ∧ p.workers[j]? = some w := by
    intro j t w hj hwt
    rcases getElem?_set_cases hj with ⟨-, rfl⟩ | ⟨hij, hj⟩
    · cases hwt
    · refine ⟨?_, hj⟩
      rintro rfl
      exact hij (hl.holder_inj hw hj rfl hwt)
  refine ⟨?_, ?_, ?_, ?_, ?_⟩
  · intro t hle
    refine hframe ?_ (h.future hle)
    rintro rfl
    exact absurd (hl.running_lt hrun) (Nat.not_lt.mpr hle)
  · intro t job' hmem
    refine hframe ?_ (h.queued hmem)
    rintro rfl
    exact hl.not_queued hrun (List.mem_map.mpr ⟨_, hmem, rfl⟩)
  · intro j t job' hj
    obtain ⟨hne, hj⟩ := hother hj rfl
    exact hframe hne (h.busy hj)
  · intro j t hj
    obtain ⟨hne, hj⟩ := hother hj rfl
    exact hframe hne (h.caught hj)
  · intro t hmem
    refine hframe ?_ (h.done hmem)
    rintro rfl
    exact hl.not_done hrun hmem

/-- A worker whose job is asserted takes its place among the others. -/
theorem Owned.occupy {i : Nat} {b : Worker J}
    (h : Owned own { p with workers := p.workers.set i .idle })
    (hbusy : ∀ t job, b = .busy t job → own t (.inHand job) p.world)
    (hcaught : ∀ t, b = .caught t → own t .ended p.world) :
    Owned own { p with workers := p.workers.set i b } := by
  have hcases : ∀ {j : Nat} {w : Worker J}, (p.workers.set i b)[j]? = some w →
      w = b ∨ (p.workers.set i .idle)[j]? = some w := by
    intro j w hj
    rcases getElem?_set_cases hj with ⟨-, rfl⟩ | ⟨hij, hj⟩
    · exact .inl rfl
    · rw [List.getElem?_set_ne hij]
      exact .inr hj
  refine ⟨h.future, h.queued, ?_, ?_, h.done⟩
  · intro j t job hj
    rcases hcases hj with rfl | hj
    · exact hbusy t job rfl
    · exact h.busy hj
  · intro j t hj
    rcases hcases hj with rfl | hj
    · exact hcaught t rfl
    · exact h.caught hj

/-- A job is over. -/
theorem Owned.complete {i ticket : Nat} (h : Owned own p)
    (ho : own ticket .ended p.world) :
    Owned own { p with executed := (ticket, i) :: p.executed } := by
  refine { h with done := ?_ }
  intro t hmem
  rcases List.mem_cons.mp hmem with rfl | hmem
  · exact ho
  · exact h.done hmem

theorem Owned.enqueue (h : Owned own p) (hl : Ledger p) (job : J) :
    Owned own (enqueue p job) := by
  refine ⟨fun hle => h.future (Nat.le_of_succ_le hle), ?_, h.busy, h.caught, h.done⟩
  intro t job' hmem
  rcases List.mem_append.mp hmem with hmem | hmem
  · exact h.queued hmem
  · obtain ⟨⟩ := List.mem_singleton.mp hmem
    rw [hl.nextTicket_eq]
    exact h.future (Nat.le_refl _)

theorem Owned.die {i ticket : Nat} {job : J} {world : W} (h : Owned own p)
    (hs : Separate load own fits) (hl : Ledger p)
    (hw : p.workers[i]? = some (.busy ticket job))
    (ht : load.turn i job p.world = some (.fatal, world)) :
    Owned own (bury { p with world, executed := (ticket, i) :: p.executed } i) := by
  have hothers := h.turn_others hs hl hw ht
  have hdead := (Owned.occupy (p := { p with world }) (b := .dead) hothers
    (by rintro _ _ ⟨⟩) (by rintro _ ⟨⟩)).complete (i := i) (hs.turn (h.busy hw) ht)
  dsimp only [bury]
  split
  · exact hdead
  · exact { hdead with queued := fun hmem => by cases hmem }

theorem Owned.step (h : Owned own p) (hs : Separate load own fits) (hl : Ledger p)
    (hfit : ∀ a ∈ p.accepted, fits a.1 a.2) (ht : Transition load p q) : Owned own q := by
  cases ht with
  | take hw hq =>
      exact h.take hs (hfit _ (hl.queue_accepted (by rw [hq]; exact List.mem_cons_self ..))) hq
  | stop => exact (h.vacate rfl).record hs _
  | @proceed i t job rest world hw ht =>
      refine Owned.occupy (p := { p with world }) (h.turn_others hs hl hw ht) ?_ ?_
      · rintro _ _ ⟨⟩
        exact hs.turn (h.busy hw) ht
      · rintro _ ⟨⟩
  | finish hw ht => exact (h.turn_others hs hl hw ht).complete (hs.turn (h.busy hw) ht)
  | @panic i t job world hw ht =>
      refine Owned.occupy (p := { p with world }) (h.turn_others hs hl hw ht) ?_ ?_
      · rintro _ _ ⟨⟩
      · rintro _ ⟨⟩
        exact hs.turn (h.busy hw) ht
  | recover hw =>
      exact ((h.vacate rfl).complete (h.caught hw)).record hs _
  | die hw ht => exact h.die hs hl hw ht
  | @submit job rest =>
      exact Owned.enqueue (p := { p with script := rest }) { h with } { hl with } job
  | refuse => exact { h with }
  | giveUp => exact { h with }
  | close => exact { h with }
  | await => exact { h with }
  | @awaitDead i others =>
      exact Owned.record (p := { p with unjoined := others }) { h with } hs .aborted
  | leave => exact { h with }

end Pool

end Liveness

import Liveness.Pool.Schedule
import Liveness.Proofs.Pool.Lifecycle
import Mathlib.Data.List.Nodup

/-!
# The books of a pool

Every accepted job has a ticket, and at every moment its ticket is in exactly one place:
in the queue, in the hands of one worker, among the executed jobs, or among the discarded
ones. Tickets are numbers in the order of acceptance, and the jobs that no worker has taken
are the latest ones in that order.
-/

namespace Liveness

namespace Pool

variable {J W : Type} {load : Workload J W} {n : Nat} {p q : Pool J W}

/-- The tickets of the jobs that no worker has taken, in the order of acceptance. -/
def untaken (p : Pool J W) : List Nat := p.discarded ++ p.queued

/-- The tickets of the jobs that have run. -/
def done (p : Pool J W) : List Nat := p.executed.map Prod.fst

/-- In how many places a ticket is, and how often in each. -/
def places (p : Pool J W) (t : Nat) : Nat :=
  p.queued.count t + p.running.count t + p.done.count t + p.discarded.count t

structure Ledger (p : Pool J W) : Prop where
  tickets : p.accepted.map Prod.fst = (List.range p.accepted.length).reverse
  placed : ∀ t, p.places t = if t < p.accepted.length then 1 else 0
  queue_suffix : p.queue <:+ p.accepted.reverse
  untaken_suffix : p.untaken <:+ p.accepted.reverse.map Prod.fst

theorem ledger_ofSize (n : Nat) (script : List (Command J)) (world : W) :
    Ledger (ofSize n script world) where
  tickets := rfl
  placed t := by
    have hrun : (ofSize n script world).running = [] := by
      refine List.filterMap_eq_nil_iff.mpr fun w hw => ?_
      obtain rfl := List.eq_of_mem_replicate hw
      rfl
    rw [places, hrun]
    rfl
  queue_suffix := List.suffix_refl _
  untaken_suffix := List.suffix_refl _

/-! ## Tickets in the hands of workers -/

theorem count_running (ws : List (Worker J)) (t : Nat) :
    (ws.filterMap Worker.ticket?).count t
      = total (fun w => w.ticket?.toList.count t) ws := by
  induction ws with
  | nil => rfl
  | cons w ws ih =>
      cases hw : w.ticket? with
      | none => simp [hw, ih]
      | some u =>
          simp only [List.filterMap_cons, hw, List.count_cons, ih, total_cons,
            Option.toList_some, List.count_nil]
          omega

theorem count_running_set {ws : List (Worker J)} {i : Nat} {a : Worker J} (b : Worker J)
    (h : ws[i]? = some a) (t : Nat) :
    ((ws.set i b).filterMap Worker.ticket?).count t + a.ticket?.toList.count t
      = (ws.filterMap Worker.ticket?).count t + b.ticket?.toList.count t := by
  rw [count_running, count_running]
  exact total_set _ b h

/-! ## Transitions -/

theorem Ledger.nextTicket_eq (h : Ledger p) : p.nextTicket = p.accepted.length := by
  have ht := h.tickets
  unfold nextTicket
  split
  · rename_i hp
    rw [hp]
    rfl
  · rename_i ticket job rest hp
    rw [hp, List.map_cons, List.length_cons, List.range_succ, List.reverse_append] at ht
    have hticket : ticket = rest.length := (List.cons.inj ht).1
    rw [hp, List.length_cons, hticket]

/-- A transition of a worker that moves tickets from place to place. -/
theorem Ledger.move (h : Ledger p) (ha : q.accepted = p.accepted)
    (hq : q.queue <:+ p.queue) (hu : q.untaken <:+ p.untaken)
    (hpl : ∀ t, q.places t = p.places t) : Ledger q where
  tickets := by rw [ha]; exact h.tickets
  placed t := by rw [hpl, ha]; exact h.placed t
  queue_suffix := by rw [ha]; exact hq.trans h.queue_suffix
  untaken_suffix := by rw [ha]; exact hu.trans h.untaken_suffix

theorem Ledger.take {i ticket : Nat} {job : J} {rest : List (Nat × J)} (h : Ledger p)
    (hd : p.discarded = []) (hw : p.workers[i]? = some .idle)
    (hq : p.queue = (ticket, job) :: rest) :
    Ledger { p with queue := rest, workers := p.workers.set i (.busy ticket job) } := by
  refine h.move rfl ?_ ?_ fun t => ?_
  · rw [hq]
    exact List.suffix_cons _ _
  · simp only [untaken, hd, queued, hq, List.map_cons, List.nil_append]
    exact List.suffix_cons _ _
  · have hset := count_running_set (.busy ticket job) hw t
    simp only [Worker.ticket?, Option.toList_none, Option.toList_some, List.count_nil,
      List.count_cons] at hset
    simp only [places, running, queued, done, hq, List.map_cons, List.count_cons]
    omega

/-- A worker goes on with the job that it has in hand. -/
theorem Ledger.hold {i : Nat} {a b : Worker J} (h : Ledger p)
    (hw : p.workers[i]? = some a) (hab : b.ticket? = a.ticket?) (world : W) :
    Ledger { p with workers := p.workers.set i b, world } := by
  refine h.move rfl (List.suffix_refl _) (List.suffix_refl _) fun t => ?_
  have hset := count_running_set b hw t
  rw [hab] at hset
  simp only [places, running, queued, done]
  omega

/-- The job that a worker has in hand has run. -/
theorem Ledger.complete {i ticket : Nat} {a b : Worker J} (h : Ledger p)
    (hw : p.workers[i]? = some a) (ha : a.ticket? = some ticket) (hb : b.ticket? = none)
    (world : W) : Ledger { p with
      workers := p.workers.set i b, world, executed := (ticket, i) :: p.executed } := by
  refine h.move rfl (List.suffix_refl _) (List.suffix_refl _) fun t => ?_
  have hset := count_running_set b hw t
  simp only [ha, hb, Option.toList_none, Option.toList_some, List.count_nil,
    List.count_cons] at hset
  simp only [places, running, queued, done, List.map_cons, List.count_cons]
  omega

/-- The jobs in the queue are discarded. -/
theorem Ledger.discard (h : Ledger p) :
    Ledger { p with queue := [], discarded := p.discarded ++ p.queued } := by
  refine h.move rfl List.nil_suffix ?_ fun t => ?_
  · simp [untaken, queued]
  · simp only [places, queued, done, running, List.map_nil, List.count_nil, List.count_append]
    omega

theorem Ledger.die {i ticket : Nat} {job : J} (h : Ledger p)
    (hw : p.workers[i]? = some (.busy ticket job)) (world : W) :
    Ledger (bury { p with world, executed := (ticket, i) :: p.executed } i) := by
  have hdead := h.complete (b := .dead) hw rfl rfl world
  dsimp only [bury]
  split
  · exact hdead
  · exact hdead.discard

theorem Ledger.enqueue (h : Ledger p) (job : J) : Ledger (enqueue p job) where
  tickets := by
    simp only [Pool.enqueue, List.map_cons, List.length_cons, List.range_succ,
      List.reverse_append, List.reverse_singleton, h.tickets, h.nextTicket_eq]
    rfl
  placed t := by
    have hp := h.placed t
    simp only [places, queued, done, running] at hp
    simp only [Pool.enqueue, places, queued, done, running, List.map_append, List.map_cons,
      List.map_nil, List.count_append, List.count_cons, List.count_nil, List.length_cons,
      h.nextTicket_eq]
    by_cases ht : p.accepted.length = t
    · subst ht
      simp only [Nat.lt_irrefl, if_false] at hp
      simp only [beq_self_eq_true, if_true, Nat.lt_succ_self]
      omega
    · have hbeq : (p.accepted.length == t) = false := by simpa using ht
      simp only [hbeq, Bool.false_eq_true, if_false]
      by_cases hlt : t < p.accepted.length
      · rw [if_pos hlt] at hp
        rw [if_pos (Nat.lt_succ_of_lt hlt)]
        omega
      · rw [if_neg hlt] at hp
        rw [if_neg (by omega)]
        omega
  queue_suffix := by
    obtain ⟨taken, ht⟩ := h.queue_suffix
    refine ⟨taken, ?_⟩
    simp only [Pool.enqueue, List.reverse_cons, ← ht, List.append_assoc]
  untaken_suffix := by
    obtain ⟨taken, ht⟩ := h.untaken_suffix
    refine ⟨taken, ?_⟩
    simp only [untaken, queued] at ht
    simp only [Pool.enqueue, untaken, queued, List.reverse_cons, List.map_append, List.map_cons,
      List.map_nil, ← ht, List.append_assoc]

theorem Ledger.step (h : Ledger p) (hl : Lifecycle n p) (ht : Transition load p q) :
    Ledger q := by
  cases ht with
  | take hw hq => exact h.take (hl.discarded_eq_nil hw rfl) hw hq
  | stop hw => exact h.hold (b := .stopped) hw rfl _
  | @proceed i ticket job rest _ hw =>
      exact h.hold (a := .busy ticket job) (b := .busy ticket rest) hw rfl _
  | finish hw => exact h.complete hw rfl rfl _
  | panic hw => exact h.hold (b := .caught _) hw rfl _
  | recover hw => exact h.complete hw rfl rfl _
  | die hw => exact h.die hw _
  | @submit job rest => exact Ledger.enqueue (p := { p with script := rest }) { h with } job
  | refuse => exact { h with }
  | giveUp => exact { h with }
  | close => exact { h with }
  | await => exact { h with }
  | awaitDead => exact { h with }
  | leave => exact { h with }

/-! ## What follows -/

theorem Ledger.lt_length_iff (h : Ledger p) {t : Nat} :
    t < p.accepted.length ↔ t ∈ p.accepted.map Prod.fst := by
  rw [h.tickets, List.mem_reverse, List.mem_range]

/-- The accepted job with a ticket. -/
def jobOf? (p : Pool J W) (t : Nat) : Option J := (p.accepted.reverse.map Prod.snd)[t]?

theorem Ledger.jobOf?_of_mem (h : Ledger p) {t : Nat} {job : J}
    (hmem : (t, job) ∈ p.accepted) : p.jobOf? t = some job := by
  obtain ⟨k, hk⟩ := List.mem_iff_getElem?.mp (List.mem_reverse.mpr hmem)
  have htick : (p.accepted.reverse.map Prod.fst)[k]? = some t := by
    rw [List.getElem?_map, hk]
    rfl
  rw [List.map_reverse, h.tickets, List.reverse_reverse] at htick
  obtain ⟨hlt, htick⟩ := List.getElem?_eq_some_iff.mp htick
  rw [List.getElem_range] at htick
  subst htick
  rw [jobOf?, List.getElem?_map, hk]
  rfl

/-- A ticket keeps its job when another job is accepted. -/
theorem jobOf?_enqueue {t : Nat} (ht : t < p.accepted.length) (job : J) :
    (enqueue p job).jobOf? t = p.jobOf? t := by
  simp only [jobOf?, enqueue, List.reverse_cons, List.map_append]
  exact List.getElem?_append_left (by simpa using ht)

theorem Ledger.queue_accepted (h : Ledger p) {a : Nat × J} (ha : a ∈ p.queue) :
    a ∈ p.accepted :=
  List.mem_reverse.mp (h.queue_suffix.subset ha)

theorem Ledger.place_lt (h : Ledger p) {t : Nat} (ht : 0 < p.places t) :
    t < p.accepted.length := by
  rw [h.placed t] at ht
  by_cases hlt : t < p.accepted.length
  · exact hlt
  · rw [if_neg hlt] at ht
    cases ht

theorem Ledger.places_le_one (h : Ledger p) (t : Nat) : p.places t ≤ 1 := by
  rw [h.placed t]
  split <;> omega

theorem mem_running {i t : Nat} {w : Worker J} (hw : p.workers[i]? = some w)
    (ht : w.ticket? = some t) : t ∈ p.running :=
  List.mem_filterMap.mpr ⟨w, List.mem_of_getElem? hw, ht⟩

theorem Ledger.running_lt (h : Ledger p) {t : Nat} (ht : t ∈ p.running) :
    t < p.accepted.length := by
  have hpos := List.count_pos_iff.mpr ht
  exact h.place_lt (by unfold places; omega)

/-- No two workers have the same job in hand. -/
theorem Ledger.holder_inj (h : Ledger p) {i j t : Nat} {a b : Worker J}
    (hi : p.workers[i]? = some a) (hj : p.workers[j]? = some b)
    (ha : a.ticket? = some t) (hb : b.ticket? = some t) : i = j := by
  by_cases hij : i = j
  · exact hij
  · -- with `i` set idle the ticket is still in the hands of `j`, and was there once more before
    have hset := count_running_set .idle hi t
    have hmem : t ∈ (p.workers.set i .idle).filterMap Worker.ticket? := by
      refine List.mem_filterMap.mpr ⟨b, ?_, hb⟩
      exact List.mem_of_getElem? (by rw [List.getElem?_set_ne hij]; exact hj)
    have hpos := List.count_pos_iff.mpr hmem
    have hone := h.places_le_one t
    rw [ha, show (Worker.idle : Worker J).ticket? = none from rfl, Option.toList_some,
      Option.toList_none, List.count_singleton_self, List.count_nil] at hset
    simp only [places, running] at hone
    omega

theorem Ledger.not_queued (h : Ledger p) {t : Nat} (ht : t ∈ p.running) :
    t ∉ p.queued := by
  intro hq
  have hrun := List.count_pos_iff.mpr ht
  have hque := List.count_pos_iff.mpr hq
  have hone := h.places_le_one t
  unfold places at hone
  omega

theorem Ledger.not_done (h : Ledger p) {t : Nat} (ht : t ∈ p.running) : t ∉ p.done := by
  intro hd
  have hrun := List.count_pos_iff.mpr ht
  have hdone := List.count_pos_iff.mpr hd
  have hone := h.places_le_one t
  unfold places at hone
  omega

/-- When nothing is queued, running or discarded, every accepted job has run once. -/
theorem Ledger.done_perm (h : Ledger p) (hq : p.queue = []) (hr : p.running = [])
    (hd : p.discarded = []) : p.done.Perm (p.accepted.map Prod.fst) := by
  refine List.perm_iff_count.mpr fun t => ?_
  have hp := h.placed t
  rw [places, queued, hq, hr, hd] at hp
  simp only [List.map_nil, List.count_nil, Nat.zero_add, Nat.add_zero] at hp
  rw [hp, h.tickets, List.count_reverse]
  split
  · rename_i hlt
    exact (List.count_eq_one_of_mem List.nodup_range (List.mem_range.mpr hlt)).symm
  · rename_i hlt
    exact (List.count_eq_zero_of_not_mem (by simpa using hlt)).symm

end Pool

end Liveness

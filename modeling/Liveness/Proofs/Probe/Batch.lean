import Liveness.Probe.Prober
import Liveness.Proofs.Config.Rules
import Liveness.Proofs.Pool.Interleaving
import Liveness.Proofs.Pool.Opening
import Liveness.Proofs.Probe.Exact
import Liveness.Proofs.Summary.Count

/-!
# What a batch does

A batch with a valid configuration starts if the system has what its pool takes. It comes to its
end in every order of moves, and then leaves behind one course for each of its requests: each was
made once and answered once, and each outcome was handed over once. Its history replays on the
transport, so the answers are the transport's own.
-/

namespace Liveness

namespace Prober

variable {S C K : Type} {p : Prober S C} {receiver : Receiver K} {res : Pool.Resources}

/-- What the world is like after a batch that left the events `es`, in which the call of
each request ended with its `answer`. -/
structure Accounted (p : Prober S C) (receiver : Receiver K) (before after : Batch.Shared S K)
    (es : List Event) (answer : Nat → Answer) : Prop where
  history : after.session.history = before.session.history ++ es
  memory : after.memory = receiver.feed before.memory (Event.deliveries es)
  /-- the transport made these calls and gave these answers, and no call is under way -/
  replay : p.transport.Replays before.session.memory (fun _ => none) es after.session.memory
    fun _ => none
  exact : Batch.Exact p.config.url p.config.count.toNat answer es

theorem requests_of_history {s s' : Session S} {es : List Event}
    (h : s'.history = s.history ++ es) :
    s'.requests = s.requests + (Event.urls es).length := by
  rw [Session.requests, h, Event.urls, List.filterMap_append, List.length_append]
  rfl

theorem Accounted.requests {before after : Batch.Shared S K} {es : List Event}
    {answer : Nat → Answer} (h : p.Accounted receiver before after es answer) :
    after.session.requests = before.session.requests + p.config.count.toNat := by
  rw [requests_of_history h.history, h.exact.urls, List.length_replicate]

/-! ## Starting -/

theorem pos_of_valid (h : p.config.violation? = none) :
    0 < p.config.count.toNat ∧ 0 < p.config.concurrency.toNat := by
  obtain ⟨-, -, hcount, hconcurrency⟩ := Config.violation?_eq_none_iff.mp h
  have hpos : ∀ n : UInt64, n ≠ 0 → 0 < n.toNat := fun n hn =>
    Nat.pos_of_ne_zero fun hzero => hn (UInt64.toNat_inj.mp hzero)
  exact ⟨hpos _ hcount, hpos _ hconcurrency⟩

/-- The session when the owner of the pool begins to submit. -/
def opening (p : Prober S C) (s : Session S) : Session S :=
  let size := p.config.concurrency.toNat
  (s.note (.poolStarted size)).note
    (.batchStarting p.config.url p.config.count.toNat size)

theorem history_opening (p : Prober S C) (s : Session S) :
    (p.opening s).history = s.history ++ [.noted (.poolStarted p.config.concurrency.toNat),
      .noted (.batchStarting p.config.url p.config.count.toNat
        p.config.concurrency.toNat)] := by
  simp only [opening, Session.note, Session.history_add, List.append_assoc]
  rfl

theorem start_eq_value (hvalid : p.config.violation? = none)
    (hres : res.Suffice p.config.concurrency.toNat) (receiver : Receiver K) (s : Session S)
    (memory : K) :
    p.start receiver s memory res = .value (Pool.ofSize p.config.concurrency.toNat
      (Batch.script C p.config.count.toNat) ⟨p.opening s, memory⟩) := by
  rw [start, rejection?, hvalid, Option.map_none]
  dsimp only
  rw [Pool.create_of_suffice (pos_of_valid hvalid).2 hres, Ending.map_value, ready, Pool.size,
    Pool.ofSize, List.length_replicate]
  rfl

/-! ## Not starting -/

variable {d : Pool.Hindrance}

/-- What keeps the pool from opening keeps the batch from starting. -/
theorem start_of_hindrance (hvalid : p.config.violation? = none)
    (hd : Pool.hindrance? res p.config.concurrency.toNat = some d) (receiver : Receiver K)
    (s : Session S) (memory : K) : p.start receiver s memory res = d.ending := by
  rw [start, rejection?, hvalid, Option.map_none]
  dsimp only
  rw [Pool.create_of_hindrance hd]
  cases d <;> rfl

theorem batch_of_hindrance (hvalid : p.config.violation? = none)
    (hd : Pool.hindrance? res p.config.concurrency.toNat = some d) (receiver : Receiver K)
    (σ : Schedule) (s : Session S) (memory : K) :
    p.batch receiver σ s memory res = (d.ending, s, memory) := by
  rw [batch, start_of_hindrance hvalid hd]
  cases d <;> rfl

theorem collect_of_hindrance (hvalid : p.config.violation? = none)
    (hd : Pool.hindrance? res p.config.concurrency.toNat = some d) (σ : Schedule)
    (s : Session S) : p.collect σ s res = (d.ending, s) := by
  rw [collect, batch_of_hindrance hvalid hd]
  cases d <;> rfl

theorem discard_of_hindrance (hvalid : p.config.violation? = none)
    (hd : Pool.hindrance? res p.config.concurrency.toNat = some d) (σ : Schedule)
    (s : Session S) : p.discard σ s res = (d.ending, s) := by
  rw [discard, batch_of_hindrance hvalid hd]

/-! ## Going on -/

variable {before : Batch.Shared S K} {q r : Pool (Batch.Job C) (Batch.Shared S K)}

/-- The pool of a batch at some moment, when the world was `before` at first. -/
structure Going (p : Prober S C) (receiver : Receiver K) (before : Batch.Shared S K)
    (q : Pool (Batch.Job C) (Batch.Shared S K)) : Prop where
  sound : Pool.Sound (p.load receiver) p.config.concurrency.toNat
    (Batch.jobs C p.config.count.toNat) q
  owned : Pool.Owned (Batch.Underway p.transport p.config.url receiver before) q

theorem going_ofSize (p : Prober S C) (receiver : Receiver K) (s : Session S) (memory : K) :
    p.Going receiver ⟨s, memory⟩ (Pool.ofSize p.config.concurrency.toNat
      (Batch.script C p.config.count.toNat) ⟨p.opening s, memory⟩) where
  sound := by
    have hinsist : ∀ c ∈ (Batch.jobs C p.config.count.toNat).map Pool.Command.insist,
        c.job?.isSome = true := by
      intro c hc
      obtain ⟨job, -, rfl⟩ := List.mem_map.mp hc
      rfl
    have hjobs : ((Batch.jobs C p.config.count.toNat).map Pool.Command.insist).filterMap
        Pool.Command.job? = Batch.jobs C p.config.count.toNat := by
      rw [List.filterMap_map]
      exact List.filterMap_some
    have hsound : Pool.Sound (p.load receiver) _ _ _ := Pool.sound_ofSize hinsist .join
      p.config.concurrency.toNat (⟨p.opening s, memory⟩ : Batch.Shared S K)
    rw [hjobs] at hsound
    exact hsound
  owned := by
    have hsince : Batch.Since p.transport receiver ⟨s, memory⟩ _ (fun _ => none)
        ⟨p.opening s, memory⟩ :=
      ⟨p.history_opening s, rfl, .cons (.noted _) (.cons (.noted _) .nil)⟩
    exact Pool.owned_ofSize fun seq => ⟨_, _, hsince, .waiting, rfl⟩

theorem Going.exists_ne_dead (h : p.Going receiver before q)
    (hn : 0 < p.config.concurrency.toNat) : ∃ w ∈ q.workers, w ≠ .dead :=
  h.sound.exists_ne_dead hn fun job _ => Batch.not_mayKill job

/-- The tickets of the accepted jobs are the numbers of their requests. -/
theorem Going.accepted_eq (h : p.Going receiver before q)
    (hn : 0 < p.config.concurrency.toNat) :
    ∀ a ∈ q.accepted, a.2 = ⟨a.1, .ready⟩ := by
  rintro ⟨seq, job⟩ hmem
  have hjob := h.sound.jobs_getElem? (h.exists_ne_dead hn) hmem
  obtain ⟨hlt, heq⟩ := List.getElem?_eq_some_iff.mp hjob
  simp only [Batch.jobs, List.getElem_map, List.getElem_range] at heq
  exact heq.symm

theorem Going.step (h : p.Going receiver before q) (hn : 0 < p.config.concurrency.toNat)
    (ht : Pool.Transition (p.load receiver) q r) : p.Going receiver before r where
  sound := h.sound.step ht
  owned := h.owned.step (Batch.separate_underway before) h.sound.ledger (h.accepted_eq hn) ht

theorem Going.reaches (h : p.Going receiver before q)
    (hn : 0 < p.config.concurrency.toNat) (hr : Pool.Reaches (p.load receiver) q r) :
    p.Going receiver before r :=
  hr.keep h fun hgoing ht => hgoing.step hn ht

/-! ## The end -/

theorem Going.accepted_length (h : p.Going receiver before q)
    (hn : 0 < p.config.concurrency.toNat) (hf : q.isFinished = true) :
    q.refused = 0 ∧ q.accepted.length = p.config.count.toNat := by
  obtain ⟨hrefused, hjobs⟩ := h.sound.submitted (h.exists_ne_dead hn)
  refine ⟨hrefused, ?_⟩
  rw [Pool.pending, List.isEmpty_iff.mp hf, List.filterMap_nil, List.append_nil] at hjobs
  have hlen := congrArg List.length hjobs
  simpa [Batch.jobs] using hlen

/-- When the owner is through, the job of each request has run. -/
theorem Going.mem_done (h : p.Going receiver before q) (hn : 0 < p.config.concurrency.toNat)
    (hf : q.isFinished = true) {seq : Nat} (hlt : seq < p.config.count.toNat) :
    seq ∈ q.done := by
  have hperm := h.sound.done_perm hf (h.exists_ne_dead hn)
  refine hperm.mem_iff.mpr (h.sound.ledger.lt_length_iff.mp ?_)
  rw [(h.accepted_length hn hf).2]
  exact hlt

/-- When the owner is through, the batch is accounted for. -/
theorem Going.accounted (h : p.Going receiver before q)
    (hn : 0 < p.config.concurrency.toNat) (hf : q.isFinished = true) :
    ∃ es answer, p.Accounted receiver before q.world es answer := by
  obtain ⟨-, hlen⟩ := h.accepted_length hn hf
  obtain ⟨es, calls, hsince, -⟩ := h.owned.future (Nat.le_refl q.accepted.length)
  -- the assertions about all requests speak of the same events and calls, since the history
  -- fixes them
  have habout : ∀ {seq place},
      Batch.Underway p.transport p.config.url receiver before seq place q.world →
      Batch.Progress (C := C) p.config.url seq place (Event.about seq es)
        ∧ calls seq = Batch.underWay place := by
    rintro seq place ⟨es', calls', hsince', hprog⟩
    obtain ⟨rfl, rfl⟩ := hsince.unique hsince'
    exact hprog
  have hover : ∀ seq < p.config.count.toNat,
      ∃ answer, Event.about seq es = Batch.course p.config.url seq answer := by
    intro seq hlt
    obtain ⟨hprog, -⟩ := habout (h.owned.done (h.mem_done hn hf hlt))
    generalize Event.about seq es = course at hprog
    cases hprog with
    | ended answer => exact ⟨answer, rfl⟩
  have hchoice : ∀ seq, ∃ answer, seq < p.config.count.toNat →
      Event.about seq es = Batch.course p.config.url seq answer := by
    intro seq
    by_cases hlt : seq < p.config.count.toNat
    · obtain ⟨answer, hanswer⟩ := hover seq hlt
      exact ⟨answer, fun _ => hanswer⟩
    · exact ⟨.panicked "", fun hlt' => absurd hlt' hlt⟩
  obtain ⟨answer, hanswer⟩ := Classical.axiom_of_choice hchoice
  have hcalls : calls = fun _ => none := by
    funext seq
    by_cases hlt : seq < p.config.count.toNat
    · exact (habout (h.owned.done (h.mem_done hn hf hlt))).2
    · exact (habout (h.owned.future (hlen.symm ▸ Nat.le_of_not_lt hlt))).2
  refine ⟨es, answer, hsince.history, hsince.memory, hcalls ▸ hsince.replay, hanswer,
    fun seq hle => ?_⟩
  obtain ⟨hprog, -⟩ := habout (h.owned.future (hlen.symm ▸ hle))
  generalize Event.about seq es = course at hprog
  cases hprog
  rfl

theorem Going.exists_step (h : p.Going receiver before q)
    (hf : q.isFinished = false) : ∃ r, Pool.Step (p.load receiver) q r :=
  h.sound.lifecycle.exists_step hf Batch.turn_ne_none

theorem Going.batchEnding_eq (h : p.Going receiver before q)
    (hn : 0 < p.config.concurrency.toNat) (hf : q.isFinished = true) :
    batchEnding q = .value () := by
  rw [batchEnding, if_pos hf, if_pos (h.accepted_length hn hf).1]

theorem Going.finished_of_quiet (h : p.Going receiver before q)
    (hq : Pool.Quiet (p.load receiver) q) : q.isFinished = true := by
  cases hf : q.isFinished with
  | true => rfl
  | false =>
      obtain ⟨r, hr⟩ := h.exists_step hf
      exact absurd hr (hq r)

theorem Going.quiet (h : p.Going receiver before q)
    (hf : q.isFinished = true) : Pool.Quiet (p.load receiver) q :=
  Pool.quiet_of_ended (h.sound.ended hf) hf

/-! ## Under a schedule -/

theorem batch_eq (hvalid : p.config.violation? = none)
    (hres : res.Suffice p.config.concurrency.toNat)
    (receiver : Receiver K) (σ : Schedule) (s : Session S) (memory : K) :
    ∃ pool q, p.start receiver s memory res = .value pool ∧ q = pool.settle (p.load receiver) σ
      ∧ p.Going receiver ⟨s, memory⟩ q ∧ q.isFinished = true
      ∧ p.batch receiver σ s memory res = (.value (), q.world.session, q.world.memory) := by
  have hstart := start_eq_value hvalid hres receiver s memory
  have hn := (pos_of_valid hvalid).2
  have hgoing := (p.going_ofSize receiver s memory).reaches hn
    (Pool.reaches_settle (p.load receiver) σ _)
  have hf := hgoing.finished_of_quiet (Pool.quiet_settle (p.load receiver) σ _)
  refine ⟨_, _, hstart, rfl, hgoing, hf, ?_⟩
  rw [batch, hstart]
  dsimp only
  rw [hgoing.batchEnding_eq hn hf]

/-- A batch ends well under every schedule, and is accounted for. -/
theorem batch_accounted (hvalid : p.config.violation? = none)
    (hres : res.Suffice p.config.concurrency.toNat)
    (receiver : Receiver K) (σ : Schedule) (s : Session S) (memory : K) :
    ∃ es answer s' memory', p.batch receiver σ s memory res = (.value (), s', memory')
      ∧ p.Accounted receiver ⟨s, memory⟩ ⟨s', memory'⟩ es answer := by
  obtain ⟨-, q, -, -, hgoing, hf, hbatch⟩ := batch_eq hvalid hres receiver σ s memory
  obtain ⟨es, answer, hacc⟩ := hgoing.accounted (pos_of_valid hvalid).2 hf
  exact ⟨es, answer, _, _, hbatch, hacc⟩

theorem feed_keeping (os kept : List Outcome) :
    Receiver.feed keeping kept os = os.reverse ++ kept := by
  induction os generalizing kept with
  | nil => rfl
  | cons o os ih =>
      rw [List.reverse_cons, List.append_assoc]
      exact ih (o :: kept)

theorem Accounted.length_lt {after : Batch.Shared S K} {es : List Event}
    {answer : Nat → Answer} (h : p.Accounted receiver before after es answer) :
    (Event.deliveries es).length < UInt64.size := by
  have hsum := h.exact.length_deliveries
  have hle : (Event.deliveries es).length ≤ p.config.count.toNat := by omega
  exact Nat.lt_of_le_of_lt hle p.config.count.toNat_lt_size

/-- Collecting the outcomes of a batch counts exactly what was handed over. -/
theorem Accounted.collect {σ : Schedule} {s s' : Session S} {kept : List Outcome}
    {es : List Event} {answer : Nat → Answer}
    (hbatch : p.batch keeping σ s [] res = (.value (), s', kept))
    (hacc : p.Accounted keeping ⟨s, []⟩ ⟨s', kept⟩ es answer) :
    ∃ summary, p.collect σ s res = (.value summary, s')
      ∧ Summary.ofList (Event.deliveries es) = .ok summary
      ∧ summary.Counts (Event.deliveries es) := by
  obtain ⟨summary, hsummary, hcounts⟩ := Summary.exists_ofList hacc.length_lt
  have hkept : kept = (Event.deliveries es).reverse := by
    have hmem := hacc.memory
    rw [feed_keeping, List.append_nil] at hmem
    exact hmem
  refine ⟨summary, ?_, hsummary, hcounts⟩
  rw [Prober.collect, hbatch]
  dsimp only
  rw [Ending.bind_value, hkept, List.reverse_reverse, hsummary]

theorem collect_accounted (hvalid : p.config.violation? = none)
    (hres : res.Suffice p.config.concurrency.toNat)
    (σ : Schedule) (s : Session S) :
    ∃ es answer s' kept summary, p.collect σ s res = (.value summary, s')
      ∧ p.Accounted keeping ⟨s, []⟩ ⟨s', kept⟩ es answer
      ∧ Summary.ofList (Event.deliveries es) = .ok summary
      ∧ summary.Counts (Event.deliveries es) := by
  obtain ⟨es, answer, s', kept, hbatch, hacc⟩ :=
    batch_accounted hvalid hres keeping σ s []
  obtain ⟨summary, hcollect, hsummary, hcounts⟩ := hacc.collect hbatch
  exact ⟨es, answer, s', kept, summary, hcollect, hacc, hsummary, hcounts⟩

/-! ## Exactness -/

/-- A batch whose owner is through: it reports no fault, nothing of it is running or still
to come, and its requests, answers and outcomes are accounted for. -/
structure Completed (p : Prober S C) (receiver : Receiver K) (before : Batch.Shared S K)
    (q : Pool (Batch.Job C) (Batch.Shared S K)) (es : List Event) (answer : Nat → Answer) :
    Prop where
  returned : batchEnding q = .value ()
  quiet : Pool.Quiet (p.load receiver) q
  queue : q.queue = []
  running : q.running = []
  accounted : p.Accounted receiver before q.world es answer
  urls : Event.urls es = List.replicate p.config.count.toNat p.config.url
  answers : (Event.answers es).Perm ((List.range p.config.count.toNat).map answer)
  outcomes : (Event.deliveries es).Perm ((Event.answers es).filterMap Answer.outcome?)

theorem Going.completed (h : p.Going receiver before q)
    (hn : 0 < p.config.concurrency.toNat) (hf : q.isFinished = true) :
    ∃ es answer, p.Completed receiver before q es answer := by
  obtain ⟨es, answer, hacc⟩ := h.accounted hn hf
  have hend := h.sound.ended hf
  exact ⟨es, answer, h.batchEnding_eq hn hf, h.quiet hf, h.sound.lifecycle.queue_eq_nil hend,
    Pool.running_eq_nil hend, hacc, hacc.exact.urls, hacc.exact.answers,
    hacc.exact.deliveries⟩

/-- In every order of moves a batch comes to its end, and is complete then; a schedule
picks one of these orders, and each is picked by some. What is collected from a batch are
the counts of exactly the outcomes handed over. -/
theorem batch_exact (hvalid : p.config.violation? = none)
    (hres : res.Suffice p.config.concurrency.toNat)
    (receiver : Receiver K) (s : Session S) (memory : K) :
    (∃ pool, p.start receiver s memory res = .value pool
      ∧ (∀ run : Nat → Pool (Batch.Job C) (Batch.Shared S K), run 0 = pool →
        ¬ ∀ k, Pool.Step (p.load receiver) (run k) (run (k + 1)))
      ∧ (∀ q, Pool.Reaches (p.load receiver) pool q → q.isFinished = false →
        ∃ r, Pool.Step (p.load receiver) q r)
      ∧ (∀ q, Pool.Reaches (p.load receiver) pool q → q.isFinished = true →
        (∃ es answer, p.Completed receiver ⟨s, memory⟩ q es answer)
        ∧ ∃ σ, p.batch receiver σ s memory res = (.value (), q.world.session, q.world.memory))
      ∧ ∀ σ, ∃ q, Pool.Reaches (p.load receiver) pool q ∧ q.isFinished = true
        ∧ p.batch receiver σ s memory res = (.value (), q.world.session, q.world.memory))
    ∧ ∀ σ, ∃ es answer s' kept summary, p.collect σ s res = (.value summary, s')
      ∧ p.Accounted keeping ⟨s, []⟩ ⟨s', kept⟩ es answer
      ∧ Summary.ofList (Event.deliveries es) = .ok summary
      ∧ summary.total.toNat
        = summary.succeeded.toNat + summary.badStatus.toNat + summary.failed.toNat
      ∧ summary.total.toNat + (Event.answers es).countP Answer.isPanicked
        = p.config.count.toNat := by
  have hn := (pos_of_valid hvalid).2
  have hstart := start_eq_value hvalid hres receiver s memory
  have hgoing : ∀ q, Pool.Reaches (p.load receiver) _ q → p.Going receiver ⟨s, memory⟩ q :=
    fun q hr => (p.going_ofSize receiver s memory).reaches hn hr
  refine ⟨⟨_, hstart, fun run _ => Pool.not_forever run, ?_, ?_, ?_⟩, ?_⟩
  · intro q hr hf
    exact (hgoing q hr).exists_step hf
  · intro q hr hf
    have hq := hgoing q hr
    refine ⟨hq.completed hn hf, ?_⟩
    -- a schedule that settles in `q` is one under which the batch ends with what is in `q`
    obtain ⟨σ, hσ⟩ := Pool.exists_settle hr (hq.quiet hf)
    obtain ⟨pool, r, hpool, hsettle, -, -, hbatch⟩ :=
      batch_eq hvalid hres receiver σ s memory
    obtain ⟨⟩ := hstart.symm.trans hpool
    rw [hsettle, hσ] at hbatch
    exact ⟨σ, hbatch⟩
  · intro σ
    obtain ⟨pool, r, hpool, hsettle, -, hf, hbatch⟩ :=
      batch_eq hvalid hres receiver σ s memory
    obtain ⟨⟩ := hstart.symm.trans hpool
    exact ⟨r, hsettle ▸ Pool.reaches_settle _ σ _, hf, hbatch⟩
  · intro σ
    obtain ⟨es, answer, s', kept, summary, hcollect, hacc, hsummary, hcounts⟩ :=
      collect_accounted hvalid hres σ s
    refine ⟨es, answer, s', kept, summary, hcollect, hacc, hsummary, hcounts.total_eq, ?_⟩
    rw [hcounts.total]
    exact hacc.exact.length_deliveries

/-- Two workers make three probes; the second call panics. -/
def stumbling : Prober Nat (Nat × String) where
  config := ⟨"127.0.0.1", 8005, 3, 2⟩
  transport := Script.transport [.status 200, .answer (.panicked "boom"), .status 503]

theorem collect_past_a_panic : ∃ summary s',
    stumbling.collect .inTurn (.begin 0) .ample = (.value summary, s')
      ∧ stumbling.transport.Replays 0 (fun _ => none) s'.history s'.memory (fun _ => none)
      ∧ (Event.answers s'.history).countP Answer.isPanicked = 1
      ∧ summary.total = 2 ∧ summary.succeeded = 1 ∧ summary.badStatus = 1
      ∧ summary.failed = 0 := by
  have hres : Pool.Resources.ample.Suffice 2 := Pool.Resources.ample_suffice (by decide)
  obtain ⟨-, hcollect⟩ := batch_exact (p := stumbling) (by decide) hres ignoring (.begin 0) ()
  obtain ⟨es, answer, s', kept, summary, hsummary, hacc, -, -, hcount⟩ := hcollect .inTurn
  obtain rfl : s'.history = es := hacc.history
  have hcounts : (stumbling.collect .inTurn (.begin 0) .ample).1 = .value ⟨2, 1, 1, 0⟩ := by
    decide +kernel
  rw [hsummary] at hcounts
  obtain rfl := Ending.value.inj hcounts
  exact ⟨_, s', hsummary, hacc.replay, Nat.add_left_cancel hcount, rfl, rfl, rfl, rfl⟩

end Prober

end Liveness

import Liveness.Probe.Course
import Liveness.Proofs.Pool.Recovery
import Liveness.Proofs.Probe.Batch

/-!
# What a batch leaves in the log

A batch that reports nothing leaves its traces in the log. Each request that was answered leaves
one record, which tells the answer and stands there before the outcome is handed over; a request
whose call panicked leaves none. Each panic, of a call or of the receiver, leaves a record of the
pool instead.

The records of requests are read off their courses. The records of panics are no part of any
course, since the pool adds them: they are counted against the panics in the history.
-/

namespace Liveness

/-! ## Panics -/

def Notice.isJobPanicked : Notice → Bool
  | .jobPanicked _ => true
  | _ => false

def Reception.isPanicked {K : Type} : Reception K → Bool
  | .taken _ => false
  | .panicked _ => true

/-- How often a receiver panics on outcomes that it is handed one after the other. -/
def Receiver.panics {K : Type} (receiver : Receiver K) : K → List Outcome → Nat
  | _, [] => 0
  | memory, o :: os =>
    (receiver o memory).isPanicked.toNat + panics receiver (receiver o memory).memory os

theorem Receiver.panics_append {K : Type} (receiver : Receiver K) (memory : K)
    (os os' : List Outcome) :
    receiver.panics memory (os ++ os')
      = receiver.panics memory os + receiver.panics (receiver.feed memory os) os' := by
  induction os generalizing memory with
  | nil => simp [panics, feed]
  | cons o os ih =>
      rw [List.cons_append, panics, panics, ih, Nat.add_assoc]
      rfl

namespace Event

@[simp] theorem notices_append (es fs : List Event) :
    notices (es ++ fs) = notices es ++ notices fs :=
  List.filterMap_append

@[simp] theorem answers_append (es fs : List Event) :
    answers (es ++ fs) = answers es ++ answers fs :=
  List.filterMap_append

/-- The records about one request. -/
def recordsOf (seq : Nat) (es : List Event) : List Notice :=
  (notices es).filter fun n => n.seq? = some seq

theorem recordsOf_eq (seq : Nat) (es : List Event) :
    recordsOf seq es = notices (about seq es) := by
  rw [recordsOf, notices, notices, about, List.filter_filterMap, List.filterMap_filter]
  refine List.filterMap_congr fun e _ => ?_
  cases e with
  | noted n => by_cases h : n.seq? = some seq <;> simp [seq?, Option.filter, h]
  | _ => simp

end Event

open Event

/-- What the record of an answered request says: by the kind of the answer its level and its
message, and all that the answer has to tell. -/
def Notice.Tells (n : Notice) (seq : Nat) : Except Fault Response → Prop
  | .ok response =>
    if response.status = 200 then
      n.level = .info ∧ n.message = "response"
        ∧ n.fields = [("seq", Numeral.decimal seq),
          ("status", Numeral.decimal response.status.toNat),
          ("headers", headersText response.headers)]
    else
      n.level = .warn ∧ n.message = "bad response"
        ∧ n.fields = [("seq", Numeral.decimal seq),
          ("status", Numeral.decimal response.status.toNat)]
  | .error fault =>
    n.level = .error ∧ n.message = "exception during probe"
      ∧ n.fields = [("seq", Numeral.decimal seq), ("error", fault.message)]

theorem outcomeNotice_tells (seq : Nat) (result : Except Fault Response) :
    (Batch.outcomeNotice seq (.ofResult result)).Tells seq result := by
  cases result with
  | error fault => exact ⟨rfl, rfl, rfl⟩
  | ok response =>
      by_cases h : response.status = 200
      · rw [Notice.Tells, if_pos h, Outcome.ofResult, if_pos (Response.isGood_iff.mpr h)]
        exact ⟨rfl, rfl, rfl⟩
      · rw [Notice.Tells, if_neg h, Outcome.ofResult,
          if_neg fun hg => h (Response.isGood_iff.mp hg)]
        exact ⟨rfl, rfl, rfl⟩

namespace Batch

variable {S C K : Type} {t : Transport S C} {url : String} {receiver : Receiver K}

/-- How many panics are recorded since the world was as in `w₀`, and how many there were: of
calls, and of the receiver on the outcomes that it was handed. -/
def PanicTally (receiver : Receiver K) (w₀ w : Shared S K) (recorded caught : Nat) : Prop :=
  ∃ es, w.session.history = w₀.session.history ++ es
    ∧ w.memory = receiver.feed w₀.memory (deliveries es)
    ∧ (notices es).countP Notice.isJobPanicked = recorded
    ∧ (answers es).countP Answer.isPanicked + receiver.panics w₀.memory (deliveries es) = caught

theorem PanicTally.extend {w₀ w w' : Shared S K} {recorded caught r c : Nat} {e : Event}
    (h : PanicTally receiver w₀ w recorded caught)
    (hh : w'.session.history = w.session.history ++ [e])
    (hm : w'.memory = receiver.feed w.memory (deliveries [e]))
    (hr : (notices [e]).countP Notice.isJobPanicked = r)
    (hc : (answers [e]).countP Answer.isPanicked + receiver.panics w.memory (deliveries [e]) = c) :
    PanicTally receiver w₀ w' (recorded + r) (caught + c) := by
  obtain ⟨es, hes, hmem, hrecorded, hcaught⟩ := h
  refine ⟨es ++ [e], ?_, ?_, ?_, ?_⟩
  · rw [hh, hes, List.append_assoc]
  · rw [hm, hmem, deliveries_append, Receiver.feed_append]
  · rw [notices_append, List.countP_append, hrecorded, hr]
  · rw [hmem] at hc
    rw [answers_append, deliveries_append, List.countP_append, Receiver.panics_append]
    omega

/-- The job of an outcome that is handed over ends by a panic exactly if the receiver panics. -/
theorem panics_of_logged {i seq : Nat} {o : Outcome} {next : Pool.Turn (Job C)}
    {w w' : Shared S K} (h : (load t url receiver).turn i ⟨seq, .logged o⟩ w = some (next, w')) :
    receiver.panics w.memory [o] = next.panics := by
  obtain rfl : (turn t url receiver ⟨seq, .logged o⟩ w).1 = next := by rw [Option.some.inj h]
  cases hr : receiver o w.memory with
  | taken memory =>
      simp [turn, deliver, hr, Receiver.panics, Reception.isPanicked, Pool.Turn.panics]
  | panicked memory =>
      simp [turn, deliver, hr, Receiver.panics, Reception.isPanicked, Pool.Turn.panics]

/-- A stage of a request records no panic, and is one exactly if it says so to the pool. -/
theorem panics_of_load {i : Nat} {job : Job C} {next : Pool.Turn (Job C)} {w w' : Shared S K}
    (h : (load t url receiver).turn i job w = some (next, w')) :
    ∃ e, w'.session.history = w.session.history ++ [e]
      ∧ w'.memory = receiver.feed w.memory (deliveries [e])
      ∧ (notices [e]).countP Notice.isJobPanicked = 0
      ∧ (answers [e]).countP Answer.isPanicked + receiver.panics w.memory (deliveries [e])
        = next.panics := by
  obtain ⟨e, hadv, hh, hm⟩ := advance_of_load h
  refine ⟨e, hh, hm, ?_⟩
  generalize w'.session.memory = m at hadv
  cases hadv with
  | send => exact ⟨rfl, rfl⟩
  | answer => exact ⟨rfl, rfl⟩
  | panic => exact ⟨rfl, rfl⟩
  | @log seq o =>
      refine ⟨?_, rfl⟩
      cases o <;> rfl
  | deliver => exact ⟨rfl, (Nat.zero_add _).trans (panics_of_logged h)⟩
  | drop => exact ⟨rfl, (Nat.zero_add _).trans (panics_of_logged h)⟩

theorem tallies_panics (w₀ : Shared S K) :
    Pool.Tallies (load t url receiver) (PanicTally receiver w₀) where
  turn h hturn := by
    obtain ⟨e, hh, hm, hr, hc⟩ := panics_of_load hturn
    exact h.extend hh hm hr hc
  record event h := by
    have hcount : (notices [.noted (.ofPool event)]).countP Notice.isJobPanicked
        = event.panics := by
      cases event <;> rfl
    exact h.extend (c := 0) (Session.history_add ..) rfl hcount rfl

end Batch

namespace Prober

variable {S C K : Type} {p : Prober S C} {receiver : Receiver K} {res : Pool.Resources}

/-- The traces of a batch that left the events `es`: the record of each request that was
answered, where it stands in the course of the request, and the records of panics. -/
structure Traced (p : Prober S C) (receiver : Receiver K) (memory : K) (es : List Event)
    (answer : Nat → Answer) : Prop where
  answered : ∀ seq < p.config.count.toNat, ∀ result, answer seq = .returned result →
    ∃ n, recordsOf seq es = [n] ∧ n.Tells seq result
      ∧ about seq es = [.requested seq p.config.url, .answered seq (.returned result), .noted n,
        .delivered seq (.ofResult result)]
  panicked : ∀ seq < p.config.count.toNat, ∀ message, answer seq = .panicked message →
    recordsOf seq es = []
      ∧ about seq es = [.requested seq p.config.url, .answered seq (.panicked message)]
  others : ∀ seq, p.config.count.toNat ≤ seq → recordsOf seq es = [] ∧ about seq es = []
  panics : (notices es).countP Notice.isJobPanicked
    = (answers es).countP Answer.isPanicked + receiver.panics memory (deliveries es)

theorem Accounted.traced {before after : Batch.Shared S K} {es : List Event}
    {answer : Nat → Answer} (h : p.Accounted receiver before after es answer)
    (hpanics : (notices es).countP Notice.isJobPanicked
      = (answers es).countP Answer.isPanicked
        + receiver.panics before.memory (deliveries es)) :
    p.Traced receiver before.memory es answer where
  answered seq hlt result hanswer := by
    have habout := h.exact.course seq hlt
    rw [hanswer] at habout
    refine ⟨Batch.outcomeNotice seq (.ofResult result), ?_, outcomeNotice_tells seq result, habout⟩
    rw [recordsOf_eq, habout]
    rfl
  panicked seq hlt message hanswer := by
    have habout := h.exact.course seq hlt
    rw [hanswer] at habout
    refine ⟨?_, habout⟩
    rw [recordsOf_eq, habout]
    rfl
  others seq hle := by
    have habout := h.exact.others seq hle
    refine ⟨?_, habout⟩
    rw [recordsOf_eq, habout]
    rfl
  panics := hpanics

/-- When the owner is through, the batch has left its traces. -/
theorem traced_of_reaches {s : Session S} {memory : K}
    {q : Pool (Batch.Job C) (Batch.Shared S K)} (hn : 0 < p.config.concurrency.toNat)
    (hr : Pool.Reaches (p.load receiver) (Pool.ofSize p.config.concurrency.toNat
      (Batch.script C p.config.count.toNat) ⟨p.opening s, memory⟩) q)
    (hf : q.isFinished = true) :
    ∃ es answer, p.Accounted receiver ⟨s, memory⟩ q.world es answer
      ∧ p.Traced receiver memory es answer := by
  have hgoing := (p.going_ofSize receiver s memory).reaches hn hr
  have hrecovering : Pool.Recovering (Batch.PanicTally receiver ⟨s, memory⟩) q := by
    refine hr.keep (I := Pool.Recovering _) ?_ fun h hmove =>
      h.step (Batch.tallies_panics _) hmove
    exact Pool.recovering_ofSize ⟨_, p.history_opening s, rfl, rfl, rfl⟩
  obtain ⟨es, answer, hacc⟩ := hgoing.accounted hn hf
  obtain ⟨n, es', hes, -, hrecorded, hcaught⟩ := hrecovering.ended (hgoing.sound.ended hf)
  obtain rfl := List.append_cancel_left (hacc.history.symm.trans hes)
  exact ⟨es, answer, hacc, hacc.traced (hrecorded.trans hcaught.symm)⟩

/-- In every order of moves, a batch that has come to its end has left one record for each
request that was answered, before its outcome was handed over, and one for each panic. -/
theorem batch_traced (hvalid : p.config.violation? = none)
    (hres : res.Suffice p.config.concurrency.toNat)
    (receiver : Receiver K) (s : Session S) (memory : K) :
    (∃ pool, p.start receiver s memory res = .value pool
      ∧ ∀ q, Pool.Reaches (p.load receiver) pool q → q.isFinished = true →
        ∃ es answer, p.Accounted receiver ⟨s, memory⟩ q.world es answer
          ∧ p.Traced receiver memory es answer)
    ∧ ∀ σ, ∃ es answer s' memory', p.batch receiver σ s memory res = (.value (), s', memory')
      ∧ p.Accounted receiver ⟨s, memory⟩ ⟨s', memory'⟩ es answer
      ∧ p.Traced receiver memory es answer := by
  have hn := (pos_of_valid hvalid).2
  have hstart := start_eq_value hvalid hres receiver s memory
  refine ⟨⟨_, hstart, fun q hr hf => traced_of_reaches hn hr hf⟩, fun σ => ?_⟩
  obtain ⟨pool, q, hpool, hsettle, -, hf, hbatch⟩ :=
    batch_eq hvalid hres receiver σ s memory
  obtain ⟨⟩ := hstart.symm.trans hpool
  obtain ⟨es, answer, hacc, htraced⟩ :=
    traced_of_reaches hn (hsettle ▸ Pool.reaches_settle (p.load receiver) σ _) hf
  exact ⟨es, answer, _, _, hbatch, hacc, htraced⟩

/-- Keeps good outcomes and panics on the others. -/
def wary : Receiver (List Outcome) := ProbeStep.keepingUnless fun o => !o.isGood

theorem stumbling_traced : ∃ s' kept,
    stumbling.batch wary .inTurn (.begin 0) [] .ample = (.value (), s', kept)
    ∧ (notices s'.history).countP Notice.isJobPanicked = 2
    ∧ recordsOf 3 s'.history = [] := by
  have hcalls : (answers (stumbling.batch wary .inTurn (.begin 0) [] .ample).2.1.history).countP
      Answer.isPanicked = 1 := by decide +kernel
  have hhanded : wary.panics []
      (deliveries (stumbling.batch wary .inTurn (.begin 0) [] .ample).2.1.history) = 1 := by
    decide +kernel
  have hres : Pool.Resources.ample.Suffice 2 := Pool.Resources.ample_suffice (by decide)
  obtain ⟨es, answer, s', kept, hbatch, hacc, htraced⟩ := (batch_traced (p := stumbling)
    (by decide) hres wary (.begin 0) []).2 .inTurn
  obtain rfl : s'.history = es := hacc.history
  rw [hbatch] at hcalls hhanded
  refine ⟨s', kept, hbatch, ?_, (htraced.others 3 (by decide)).1⟩
  rw [htraced.panics]
  exact congrArg₂ (· + ·) hcalls hhanded

end Prober

end Liveness

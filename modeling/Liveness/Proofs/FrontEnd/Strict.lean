import Liveness.FrontEnd
import Liveness.Proofs.Probe.Batch

/-!
# What a strict batch vouches for

A strict batch is to pass only if every probe was answered with the good status. It judges
by the outcomes that were counted, and a call that panics leaves none. So it passes when
some probe was good and every other was good or panicked, and what it vouches for is true
exactly if no call panicked. The answers are those of the transport: the history of the run replays
on it.
-/

namespace Liveness

/-- A sink that takes everything, after a line. -/
def Sink.withLine (sink : Sink) (line : String) : Sink :=
  ⟨sink.bytes ++ Utf8.encode (line ++ "\n").toList, none⟩

namespace FrontEnd

variable {S C : Type} {p : Prober S C} {res : Pool.Resources}

theorem verdict_eq_value_iff {config : Config} {os : List Outcome} {summary : Summary}
    (h : summary.Counts os) (hlt : os.length < UInt64.size) :
    verdict config true summary = .value () ↔ os ≠ [] ∧ ∀ o ∈ os, o.isGood = true := by
  obtain ⟨b, hb, hiff⟩ := h.allSucceeded? hlt
  obtain ⟨n, hn, -⟩ := h.failures? hlt
  rw [← hiff]
  cases b with
  | true => simp [verdict, hb]
  | false => simp [verdict, hb, hn]

theorem printLine_eq {sink : Sink} (h : sink.room = none) (line : String) (session : Session S)
    (next : Sink → Run S) : printLine line session sink next = next (sink.withLine line) := by
  rw [printLine, Sink.write, h]
  rfl

/-- A sink that takes everything lets a run go on, and takes everything still. -/
theorem printLine_of_room {sink : Sink} (h : sink.room = none) (line : String)
    (session : Session S) (next : Sink → Run S) :
    ∃ sink', sink'.room = none ∧ printLine line session sink next = next sink' :=
  ⟨sink.withLine line, rfl, printLine_eq h line session next⟩

/-- A strict batch whose outcomes were counted ends with the verdict on the counts. -/
theorem strict_run {json : Bool} {σ : Schedule} {session s' : Session S} {sink : Sink}
    {summary : Summary}
    (hcollect : p.collect σ (session.note (.batchRun p.config true json)) res
      = (.value summary, s'))
    (hroom : sink.room = none) :
    ∃ sink', batch p true json σ session sink res
      = ⟨verdict p.config true summary, s', sink'⟩ := by
  obtain ⟨sink', -, hprint⟩ := printLine_of_room hroom
    (if json then summary.json else countedLine summary p.config) s'
    fun sink => ⟨verdict p.config true summary, s', sink⟩
  refine ⟨sink', ?_⟩
  rw [batch, Bool.true_or, if_pos rfl]
  dsimp only
  rw [hcollect]
  exact hprint

theorem isGood_iff_outcome? {a : Answer} :
    a.isGood = true ↔ ∃ o, a.outcome? = some o ∧ o.isGood = true := by
  rcases a with (fault | response) | message
  · simp [Answer.isGood, Answer.outcome?, Outcome.ofResult, Outcome.isGood]
  · by_cases hgood : response.isGood = true
    · simp [Answer.isGood, Answer.outcome?, Outcome.ofResult, Outcome.isGood, hgood]
    · simp [Answer.isGood, Answer.outcome?, Outcome.ofResult, Outcome.isGood, hgood]
  · simp [Answer.isGood, Answer.outcome?]

theorem isPanicked_iff_outcome? {a : Answer} : a.isPanicked = true ↔ a.outcome? = none := by
  cases a <;> simp [Answer.isPanicked, Answer.outcome?]

/-- Some outcome was handed over and all of them are good. -/
theorem all_good_iff {url : String} {count : Nat} {answer : Nat → Answer} {es : List Event}
    (h : Batch.Exact url count answer es) :
    (Event.deliveries es ≠ [] ∧ ∀ o ∈ Event.deliveries es, o.isGood = true)
      ↔ (∃ seq < count, (answer seq).isGood = true)
        ∧ ∀ seq < count, (answer seq).isGood = true ∨ (answer seq).isPanicked = true := by
  constructor
  · rintro ⟨hne, hall⟩
    refine ⟨?_, ?_⟩
    · obtain ⟨o, ho⟩ := List.exists_mem_of_ne_nil _ hne
      obtain ⟨seq, hlt, hseq⟩ := h.mem_deliveries.mp ho
      exact ⟨seq, hlt, isGood_iff_outcome?.mpr ⟨o, hseq, hall o ho⟩⟩
    · intro seq hlt
      cases hseq : (answer seq).outcome? with
      | none => exact .inr (isPanicked_iff_outcome?.mpr hseq)
      | some o =>
          have ho := h.mem_deliveries.mpr ⟨seq, hlt, hseq⟩
          exact .inl (isGood_iff_outcome?.mpr ⟨o, hseq, hall o ho⟩)
  · rintro ⟨⟨seq, hlt, hgood⟩, hall⟩
    refine ⟨?_, ?_⟩
    · obtain ⟨o, ho, -⟩ := isGood_iff_outcome?.mp hgood
      exact List.ne_nil_of_mem (h.mem_deliveries.mpr ⟨seq, hlt, ho⟩)
    · intro o ho
      obtain ⟨seq, hlt, hseq⟩ := h.mem_deliveries.mp ho
      rcases hall seq hlt with hgood | hpanicked
      · obtain ⟨o', ho', hgood⟩ := isGood_iff_outcome?.mp hgood
        obtain rfl := Option.some.inj (hseq.symm.trans ho')
        exact hgood
      · rw [isPanicked_iff_outcome?.mp hpanicked] at hseq
        cases hseq

/-- What keeps the pool from opening is how a run ends that makes a batch, and it shows nothing. -/
theorem batch_of_hindrance (hvalid : p.config.violation? = none) {d : Pool.Hindrance}
    (hd : Pool.hindrance? res p.config.concurrency.toNat = some d) (strict json : Bool)
    (σ : Schedule) (session : Session S) (sink : Sink) :
    batch p strict json σ session sink res
      = ⟨d.ending.mapFailure (startFailure p.config),
        session.note (.batchRun p.config strict json), sink⟩ := by
  unfold batch
  dsimp only
  split
  · rw [Prober.collect_of_hindrance hvalid hd]
    cases d <;> rfl
  · rw [Prober.discard_of_hindrance hvalid hd]
    cases d <;> rfl

/-- A run whose pool could be opened shows one line and ends with a verdict on some counts. -/
theorem batch_line (hvalid : p.config.violation? = none)
    (hres : res.Suffice p.config.concurrency.toNat) (strict json : Bool) (σ : Schedule)
    (session : Session S) (sink : Sink) :
    ∃ os summary line s', summary.Counts os ∧ os.length < UInt64.size
      ∧ batch p strict json σ session sink res
        = printLine line s' sink fun sink => ⟨verdict p.config strict summary, s', sink⟩ := by
  cases hcounted : strict || json with
  | false =>
      obtain ⟨rfl, rfl⟩ := Bool.or_eq_false_iff.mp hcounted
      obtain ⟨es, answer, s', memory', hbatch, -⟩ := Prober.batch_accounted hvalid hres
        Prober.ignoring σ (session.note (.batchRun p.config false false)) ()
      refine ⟨[], .empty, finishedLine p.config.count.toNat p.config, s', Summary.counts_empty,
        by decide, ?_⟩
      simp only [batch, Bool.or_self, Bool.false_eq_true, if_false, Prober.discard, hbatch]
      rfl
  | true =>
      obtain ⟨es, answer, s', kept, summary, hcollect, hacc, -, hcounts⟩ :=
        Prober.collect_accounted hvalid hres σ (session.note (.batchRun p.config strict json))
      refine ⟨_, summary, if json then summary.json else countedLine summary p.config, s', hcounts,
        hacc.length_lt, ?_⟩
      simp only [batch, hcounted, if_true, hcollect]

/-- The calls of a strict batch and their answers, and when the batch passes by them. -/
structure Vouched (p : Prober S C) (before : Session S) (run : Run S) (es : List Event)
    (answer : Nat → Answer) : Prop where
  history : run.session.history = before.history ++ es
  replay : p.transport.Replays before.memory (fun _ => none) es run.session.memory fun _ => none
  exact : Batch.Exact p.config.url p.config.count.toNat answer es
  passes_iff : run.ending = .value () ↔
    (∃ seq < p.config.count.toNat, (answer seq).isGood = true)
      ∧ ∀ seq < p.config.count.toNat,
        (answer seq).isGood = true ∨ (answer seq).isPanicked = true

/-- A strict batch whose writer takes everything passes by the outcomes handed over. -/
theorem exists_vouched (hvalid : p.config.violation? = none)
    (hres : res.Suffice p.config.concurrency.toNat) (json : Bool) (σ : Schedule)
    (session : Session S) {sink : Sink} (hroom : sink.room = none) :
    ∃ es answer, Vouched p session (batch p true json σ session sink res) es answer := by
  obtain ⟨es, answer, s', kept, summary, hcollect, hacc, -, hcounts⟩ :=
    Prober.collect_accounted hvalid hres σ (session.note (.batchRun p.config true json))
  obtain ⟨sink', hrun⟩ := strict_run hcollect hroom
  rw [hrun]
  refine ⟨.noted (.batchRun p.config true json) :: es, answer, ?_, .cons (.noted _) hacc.replay,
    hacc.exact.cons rfl, ?_⟩
  · have hhistory := hacc.history
    rw [Session.note, Session.history_add, List.append_assoc] at hhistory
    exact hhistory
  · rw [← all_good_iff hacc.exact]
    exact verdict_eq_value_iff hcounts hacc.length_lt

/-- Of a batch that passes, all probes were good exactly if no call panicked. -/
theorem Vouched.true_iff {before : Session S} {run : Run S} {es : List Event}
    {answer : Nat → Answer} (h : Vouched p before run es answer) (hpass : run.ending = .value ()) :
    (∀ seq < p.config.count.toNat, (answer seq).isGood = true)
      ↔ ∀ seq < p.config.count.toNat, (answer seq).isPanicked = false := by
  obtain ⟨-, hall⟩ := h.passes_iff.mp hpass
  constructor
  · intro hgood seq hlt
    have hseq := hgood seq hlt
    cases ha : answer seq with
    | returned result => rfl
    | panicked message =>
        rw [ha] at hseq
        cases hseq
  · intro hnone seq hlt
    refine (hall seq hlt).resolve_right ?_
    rw [hnone seq hlt]
    rintro ⟨⟩

/-- When a strict batch passes: some probe was answered with the good status, and each of
the others was, too, or its call panicked. So what it vouches for, that every probe was good,
is true of exactly those passing batches in which no call panicked. A batch whose pool cannot be
opened does not pass: its run ends with what is in the way. -/
theorem strict_passes_iff (hvalid : p.config.violation? = none) (res : Pool.Resources)
    (json : Bool) (σ : Schedule) (session : Session S) {sink : Sink} (hroom : sink.room = none) :
    (∀ d, Pool.Obstacle res p.config.concurrency.toNat d →
      (batch p true json σ session sink res).ending
        = d.ending.mapFailure (startFailure p.config))
    ∧ (res.Suffice p.config.concurrency.toNat →
      ∃ es answer, Vouched p session (batch p true json σ session sink res) es answer
        ∧ ((batch p true json σ session sink res).ending = .value () →
          ((∀ seq < p.config.count.toNat, (answer seq).isGood = true)
            ↔ ∀ seq < p.config.count.toNat, (answer seq).isPanicked = false))) := by
  constructor
  · intro d hd
    rw [batch_of_hindrance hvalid (Pool.hindrance?_eq_some_iff.mpr hd)]
  · intro hres
    obtain ⟨es, answer, hvouched⟩ := exists_vouched hvalid hres json σ session hroom
    exact ⟨es, answer, hvouched, hvouched.true_iff⟩

/-- One worker makes two probes, and the second panics. -/
def faltering : Prober Nat (Nat × String) where
  config := ⟨"127.0.0.1", 8005, 2, 1⟩
  transport := Script.transport [.status 200, .answer (.panicked "boom")]

def falteringRun : Run Nat :=
  batch faltering true false .workersFirst (.begin 0) .endless

theorem strict_passes_past_a_panic :
    falteringRun.ending = .value ()
      ∧ ∃ answer, Vouched faltering (.begin 0) falteringRun falteringRun.session.history answer
        ∧ ¬ ∀ seq < 2, (answer seq).isGood = true := by
  have hpass : falteringRun.ending = .value () := by decide +kernel
  have hloss : (Event.answers falteringRun.session.history).any Answer.isPanicked = true := by
    decide +kernel
  obtain ⟨-, hrun⟩ := strict_passes_iff (p := faltering) (by decide) .ample false
    .workersFirst (.begin 0) (show Sink.endless.room = none from rfl)
  obtain ⟨es, answer, hvouched, hvouch⟩ := hrun (Pool.Resources.ample_suffice (by decide))
  obtain rfl : falteringRun.session.history = es := hvouched.history
  refine ⟨hpass, answer, hvouched, fun hgood => ?_⟩
  have hnone := (hvouch hpass).mp hgood
  obtain ⟨a, ha, hpanicked⟩ := List.any_eq_true.mp hloss
  obtain ⟨seq, hseq, rfl⟩ := List.mem_map.mp (hvouched.exact.answers.mem_iff.mp ha)
  rw [hnone seq (List.mem_range.mp hseq)] at hpanicked
  cases hpanicked

end FrontEnd

end Liveness

import Liveness.Proofs.FrontEnd.Strict
import Liveness.Proofs.Probe.Serial

/-!
# The two front ends agree

A single run fails with its request, and a strict batch judges by its counts. Over the same
answers they say the same: the batch passes exactly if each of as many single runs passes, and
otherwise reports how many of them fail. That holds for every fault a call may end with, one
that speaks of a good status included, and under every schedule.
-/

namespace Liveness

/-- Whether a computation reported a failure. -/
def Ending.isFailure {ε α : Type} : Ending ε α → Bool
  | .failure _ => true
  | _ => false

namespace FrontEnd

variable {S C : Type} {p : Prober S C} {res : Pool.Resources} {answer : Nat → Answer}
  {after : S → Nat → Prop} {nth : C → Nat → Prop}

/-! ## Single runs -/

/-- How single runs end that are made one after the other, each on the session and the sink
that the last one left. -/
def singles (p : Prober S C) : Nat → Session S → Sink → List (Ending Failure Unit)
  | 0, _, _ => []
  | count + 1, session, sink =>
    let run := single p session sink
    run.ending :: singles p count run.session run.sink

/-- How a single run ends by what its request found. -/
def singleEnding (config : Config) (found : Ending Fault Response) : Ending Failure Unit :=
  (found.map fun _ => ()).mapFailure fun fault =>
    (Failure.ofFault fault).within ("probing " ++ config.url)

theorem concludeSingle_of_room (config : Config) (found : Ending Fault Response)
    (session : Session S) {sink : Sink} (hroom : sink.room = none) :
    ∃ sink', sink'.room = none ∧ concludeSingle config found session sink
      = ⟨singleEnding config found, session, sink'⟩ := by
  cases found with
  | value response => exact printLine_of_room hroom _ session fun sink => ⟨.value (), session, sink⟩
  | failure fault => exact ⟨sink, hroom, rfl⟩
  | abort message => exact ⟨sink, hroom, rfl⟩
  | stalled => exact ⟨sink, hroom, rfl⟩

theorem single_served (hvalid : p.config.violation? = none)
    (ht : p.transport.Serial p.config.url answer after nth) {k : Nat} {session : Session S}
    (hs : after session.memory k) {sink : Sink} (hroom : sink.room = none) :
    ∃ session' sink', single p session sink
        = ⟨singleEnding p.config (answer k).ending, session', sink'⟩
      ∧ after session'.memory (k + 1) ∧ sink'.room = none := by
  obtain ⟨es, session', honce, -, -, -, hafter⟩ :=
    Prober.once_served hvalid ht (s := session.note (.singleRun p.config)) hs
  refine ⟨session', ?_⟩
  simp only [single, honce]
  cases shownStatus? (answer k).ending with
  | none =>
      obtain ⟨sink', hroom', hrun⟩ :=
        concludeSingle_of_room p.config (answer k).ending session' hroom
      exact ⟨sink', hrun, hafter, hroom'⟩
  | some status =>
      obtain ⟨sink₁, hroom₁, hprint⟩ := printLine_of_room hroom (statusLine status) session'
        (concludeSingle p.config (answer k).ending session')
      obtain ⟨sink', hroom', hrun⟩ :=
        concludeSingle_of_room p.config (answer k).ending session' hroom₁
      exact ⟨sink', hprint.trans hrun, hafter, hroom'⟩

/-- Single runs use up the answers one after the other. -/
theorem singles_eq (hvalid : p.config.violation? = none)
    (ht : p.transport.Serial p.config.url answer after nth) {k : Nat} {session : Session S}
    (hs : after session.memory k) {sink : Sink} (hroom : sink.room = none) (count : Nat) :
    singles p count session sink = (Transport.block answer k count).map fun a =>
      singleEnding p.config a.ending := by
  induction count generalizing k session sink with
  | zero => rfl
  | succ count ih =>
      obtain ⟨session', sink', hrun, hafter, hroom'⟩ := single_served hvalid ht hs hroom
      rw [singles, hrun, Transport.block_succ, List.map_cons]
      exact congrArg _ (ih hafter hroom')

/-! ## The verdict on a batch -/

/-- How many of the outcomes are not good. -/
def failures (os : List Outcome) : Nat := os.countP fun o => !o.isGood

theorem tally_add_eq_failures (os : List Outcome) :
    Summary.tally os .bad + Summary.tally os .failed = failures os := by
  have hgood : Summary.tally os .good = os.countP Outcome.isGood :=
    List.countP_congr fun o _ => by rw [decide_eq_true_iff, Summary.isGood_iff_kind]
  have hsplit : os.length = os.countP Outcome.isGood + failures os := by
    simpa [failures] using List.length_eq_countP_add_countP Outcome.isGood (l := os)
  have hsum := Summary.tally_sum os
  omega

theorem failures_eq_zero_iff {os : List Outcome} :
    failures os = 0 ↔ ∀ o ∈ os, o.isGood = true := by
  simp [failures, List.countP_eq_zero]

/-- What a strict batch reports that had some outcomes which were not good. -/
def strictReport (config : Config) (failures count : Nat) : Failure :=
  ⟨Numeral.decimal failures ++ " of " ++ Numeral.decimal count ++ " probes against "
    ++ config.authority ++ " failed", []⟩

theorem verdict_of_counts (config : Config) {os : List Outcome} {summary : Summary}
    (h : summary.Counts os) (hlt : os.length < UInt64.size) (hne : os ≠ []) :
    verdict config true summary
      = if failures os = 0 then .value ()
        else .failure (strictReport config (failures os) os.length) := by
  obtain ⟨b, hb, hiff⟩ := h.allSucceeded? hlt
  obtain ⟨n, hn, hfailures⟩ := h.failures? hlt
  rw [tally_add_eq_failures] at hfailures
  have hgood : b = true ↔ failures os = 0 := by
    rw [hiff, failures_eq_zero_iff]
    exact and_iff_right hne
  cases b with
  | true =>
      rw [if_pos (hgood.mp rfl)]
      simp only [verdict, hb, if_true]
  | false =>
      rw [if_neg fun hzero => absurd (hgood.mpr hzero) (by decide)]
      simp only [verdict, hb, hn, if_true, strictFailure, strictReport, hfailures, h.total]

/-! ## Agreement -/

/-- A single run passes or fails, and passes exactly if the outcome of its call is good. -/
theorem singleEnding_returned (config : Config) (r : Except Fault Response) :
    singleEnding config (Answer.returned r).ending = .value ()
        ∧ (Outcome.ofResult r).isGood = true
      ∨ (singleEnding config (Answer.returned r).ending).isFailure = true
        ∧ (Outcome.ofResult r).isGood = false := by
  rcases r with fault | response
  · exact .inr ⟨rfl, rfl⟩
  · rw [Answer.ending, Outcome.ofResult]
    split
    · exact .inl ⟨rfl, rfl⟩
    · exact .inr ⟨rfl, rfl⟩

theorem isFailure_singleEnding (config : Config) (r : Except Fault Response) :
    (singleEnding config (Answer.returned r).ending).isFailure = !(Outcome.ofResult r).isGood := by
  rcases singleEnding_returned config r with ⟨hpass, hgood⟩ | ⟨hfail, hgood⟩
  · rw [hpass, hgood]
    rfl
  · rw [hfail, hgood]
    rfl

theorem singles_returned {result : Nat → Except Fault Response}
    (hvalid : p.config.violation? = none)
    (ht : p.transport.Serial p.config.url (fun n => .returned (result n)) after nth) {k : Nat}
    {session : Session S} (hs : after session.memory k) {sink : Sink} (hroom : sink.room = none)
    (count : Nat) :
    singles p count session sink = (List.range count).map fun i =>
      singleEnding p.config (Answer.returned (result (k + i))).ending := by
  rw [singles_eq hvalid ht hs hroom, Transport.block, List.map_map]
  rfl

/-- As many single runs fail as a batch of the same calls has outcomes that are not good. -/
theorem countP_isFailure_singles {result : Nat → Except Fault Response}
    (hvalid : p.config.violation? = none)
    (ht : p.transport.Serial p.config.url (fun n => .returned (result n)) after nth) {k : Nat}
    {session : Session S} (hs : after session.memory k) {sink : Sink} (hroom : sink.room = none)
    (count : Nat) :
    (singles p count session sink).countP Ending.isFailure
      = failures (Prober.outcomes (fun n => .returned (result n)) k count) := by
  rw [singles_returned hvalid ht hs hroom, Prober.outcomes_returned, failures, List.countP_map,
    List.countP_map]
  refine List.countP_congr fun i _ => ?_
  simp only [Function.comp_apply, isFailure_singleEnding]

theorem singles_pass_or_fail {result : Nat → Except Fault Response}
    (hvalid : p.config.violation? = none)
    (ht : p.transport.Serial p.config.url (fun n => .returned (result n)) after nth) {k : Nat}
    {session : Session S} (hs : after session.memory k) {sink : Sink} (hroom : sink.room = none)
    (count : Nat) :
    ∀ run ∈ singles p count session sink, run = .value () ∨ run.isFailure = true := by
  rw [singles_returned hvalid ht hs hroom]
  intro run hmem
  obtain ⟨i, -, rfl⟩ := List.mem_map.mp hmem
  exact (singleEnding_returned p.config (result (k + i))).imp And.left And.left

/-- Runs that pass or fail all pass exactly if none fails. -/
theorem all_pass_iff {runs : List (Ending Failure Unit)}
    (h : ∀ run ∈ runs, run = .value () ∨ run.isFailure = true) :
    (∀ run ∈ runs, run = .value ()) ↔ runs.countP Ending.isFailure = 0 := by
  rw [List.countP_eq_zero]
  refine forall₂_congr fun run hmem => ?_
  rcases h run hmem with rfl | hfail
  · simp [Ending.isFailure]
  · simp only [hfail, not_true_eq_false, iff_false]
    rintro rfl
    cases hfail

/-- A strict batch judges the outcomes of the block of answers that it takes. -/
theorem strict_served {result : Nat → Except Fault Response}
    (hvalid : p.config.violation? = none) (hres : res.Suffice p.config.concurrency.toNat)
    (ht : p.transport.Serial p.config.url (fun n => .returned (result n)) after nth) {k : Nat}
    {session : Session S} (hs : after session.memory k) (json : Bool) (σ : Schedule) {sink : Sink}
    (hroom : sink.room = none) :
    let found := failures
      (Prober.outcomes (fun n => .returned (result n)) k p.config.count.toNat)
    (batch p true json σ session sink res).ending
      = if found = 0 then .value ()
        else .failure (strictReport p.config found p.config.count.toNat) := by
  intro found
  obtain ⟨summary, s', hcollect, hcounts, -⟩ := Prober.collect_served hvalid hres ht
    (s := session.note (.batchRun p.config true json)) hs σ
  obtain ⟨sink', hrun⟩ := strict_run hcollect hroom
  let os := Prober.outcomes (fun n => .returned (result n)) k p.config.count.toNat
  have hlength : os.length = p.config.count.toNat := by simp [os, Prober.outcomes_returned]
  have hne : os ≠ [] := by
    refine List.ne_nil_of_length_pos ?_
    rw [hlength]
    exact (Prober.pos_of_valid hvalid).1
  have hlt : os.length < UInt64.size := by
    rw [hlength]
    exact p.config.count.toNat_lt
  have hverdict := verdict_of_counts p.config hcounts hlt hne
  rw [hlength] at hverdict
  rw [hrun]
  exact hverdict

/-- A strict batch passes exactly if each of as many single runs over the same results passes.
Otherwise it reports how many of them fail. -/
theorem strict_agrees_with_singles {result : Nat → Except Fault Response}
    (hvalid : p.config.violation? = none) (hres : res.Suffice p.config.concurrency.toNat)
    (ht : p.transport.Serial p.config.url (fun n => .returned (result n)) after nth) {k : Nat}
    {session fresh : Session S} (hs : after session.memory k) (hfresh : after fresh.memory k)
    (json : Bool) (σ : Schedule) {sink out : Sink} (hroom : sink.room = none)
    (hout : out.room = none) :
    let ending := (batch p true json σ session sink res).ending
    let runs := singles p p.config.count.toNat fresh out
    (∀ run ∈ runs, run = .value () ∨ run.isFailure = true)
      ∧ (ending = .value () ↔ ∀ run ∈ runs, run = .value ())
      ∧ (ending ≠ .value () → ending =
        .failure (strictReport p.config (runs.countP Ending.isFailure) p.config.count.toNat)) := by
  intro ending runs
  have hruns : ∀ run ∈ runs, run = .value () ∨ run.isFailure = true :=
    singles_pass_or_fail hvalid ht hfresh hout _
  have hending : ending = if runs.countP Ending.isFailure = 0 then .value ()
      else .failure (strictReport p.config (runs.countP Ending.isFailure)
        p.config.count.toNat) := by
    rw [show runs.countP Ending.isFailure = _ from
      countP_isFailure_singles hvalid ht hfresh hout _]
    exact strict_served hvalid hres ht hs json σ hroom
  refine ⟨hruns, ?_, fun hfail => ?_⟩
  · rw [all_pass_iff hruns, hending]
    split <;> simp [*]
  · have hsome : runs.countP Ending.isFailure ≠ 0 := fun hzero =>
      hfail (by rw [hending, if_pos hzero])
    exact hending.trans (if_neg hsome)

/-- Answers of both kinds, and a fault that tells of the good status. -/
def mixed : Nat → Except Fault Response
  | 1 => .ok (Response.ofStatus 500)
  | 2 => .error (.badStatus Response.goodStatus)
  | _ => .ok (Response.ofStatus Response.goodStatus)

def mixedProber : Prober Nat (Nat × String) where
  config := ⟨"127.0.0.1", 8005, 4, 2⟩
  transport := .numbered fun n _ => .returned (mixed n)

theorem strict_counts_failed_singles :
    (batch mixedProber true false .inTurn (.begin 0) .endless).ending
      = .failure ⟨"2 of 4 probes against 127.0.0.1:8005 failed", []⟩ := by
  have hbegin : (Session.begin 0 : Session Nat).memory = 0 := rfl
  have hendless : Sink.endless.room = none := rfl
  obtain ⟨-, hpass, hreport⟩ := strict_agrees_with_singles (p := mixedProber) (by decide)
    (Pool.Resources.ample_suffice (by decide))
    (Transport.numbered_serial (fun n _ => .returned (mixed n)) _) hbegin hbegin false .inTurn
    hendless hendless
  have hfailed : ¬ ∀ run ∈ singles mixedProber 4 (.begin 0) .endless, run = .value () := by
    decide +kernel
  rw [hreport fun hvalue => hfailed (hpass.mp hvalue)]
  decide +kernel

end FrontEnd

end Liveness

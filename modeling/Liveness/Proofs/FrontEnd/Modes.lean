import Liveness.Proofs.FrontEnd.Agreement
import Liveness.Proofs.Json.Object

/-!
# The modes of a batch agree

A batch can be asked to be strict and to show its counts as JSON. Neither changes what it does:
in every mode it makes the same calls, and counts the same results if it counts them. The flags
change only what they are meant to. JSON changes the text that is printed, and strictness changes
how the run ends and adds the counts to a text that is no JSON.

Which outcomes a run counts is settled by the block of answers that the batch takes. So every mode
that counts has one and the same summary, and what is printed and reported is read off it.
-/

namespace Liveness

/-! ## Counting results -/

namespace Summary

/-- The class of a result: by the status of an answer, or failed without one. -/
def classOf : Except Fault Response → Outcome.Class
  | .ok response => if response.status = 200 then .good else .bad
  | .error _ => .failed

/-- How many of `count` results from number `k` on are of a class. -/
def amount (result : Nat → Except Fault Response) (k count : Nat) (c : Outcome.Class) : Nat :=
  (List.range count).countP fun i => classOf (result (k + i)) = c

theorem kind_ofResult (result : Except Fault Response) :
    (Outcome.ofResult result).kind = classOf result := by
  cases result with
  | error fault => rfl
  | ok response =>
      by_cases h : response.status = 200
      · rw [Outcome.ofResult, if_pos (Response.isGood_iff.mpr h), classOf, if_pos h]
        rfl
      · rw [Outcome.ofResult, if_neg fun hg => h (Response.isGood_iff.mp hg), classOf, if_neg h]
        rfl

theorem tally_outcomes (result : Nat → Except Fault Response) (k count : Nat)
    (c : Outcome.Class) :
    tally (Prober.outcomes (fun n => .returned (result n)) k count) c
      = amount result k count c := by
  rw [Prober.outcomes_returned, tally, amount, List.countP_map]
  refine List.countP_congr fun i _ => ?_
  simp only [Function.comp_apply, kind_ofResult]

/-- The members of the object that shows a summary. -/
def members (s : Summary) : List (String × Nat) :=
  [("total", s.total.toNat), ("succeeded", s.succeeded.toNat),
    ("bad_status", s.badStatus.toNat), ("failed", s.failed.toNat)]

theorem Counts.members_eq {os : List Outcome} {s : Summary} (h : s.Counts os) :
    s.members = [("total", os.length), ("succeeded", tally os .good),
      ("bad_status", tally os .bad), ("failed", tally os .failed)] := by
  rw [members, h.total, ← h.counter .good, ← h.counter .bad, ← h.counter .failed]
  rfl

theorem json_eq (s : Summary) : s.json = String.ofList (Json.objectChars s.members) := by
  refine String.toList_injective ?_
  simp [json, json.quotedName, Numeral.decimal, members, Json.objectChars, Json.membersChars,
    Json.memberChars]

/-- A summary is shown on one line, and what that line says are its counters. -/
theorem json_line (s : Summary) :
    '\n' ∉ s.json.toList ∧ Json.members? s.json = some s.members := by
  have hplain : ∀ key ∈ ["total", "succeeded", "bad_status", "failed"],
      key.toList.all Json.isPlain = true := by decide
  have hkeys : ∀ m ∈ s.members, ∀ c ∈ m.1.toList, Json.isPlain c = true := fun m hm =>
    List.all_eq_true.mp (hplain m.1 (List.mem_map_of_mem (f := Prod.fst) hm))
  have hfit : ∀ m ∈ s.members, m.2 ≤ Json.wordLimit := by
    have hword : ∀ n : UInt64, n.toNat ≤ Json.wordLimit := fun n =>
      Nat.le_sub_one_of_lt n.toNat_lt_size
    simp [members, hword]
  rw [json_eq]
  refine ⟨?_, Json.members?_objectChars hkeys hfit⟩
  rw [String.toList_ofList]
  exact Json.newline_not_mem_objectChars hkeys

end Summary

/-! ## One run -/

namespace FrontEnd

variable {S C : Type} {p : Prober S C} {res : Pool.Resources} {after : S → Nat → Prop}
  {nth : C → Nat → Prop} {result : Nat → Except Fault Response} {k : Nat} {session : Session S}
  {sink : Sink}

/-- A mode in which nothing is counted makes its calls and then shows one line, to whatever
sink. -/
theorem uncounted_line {answer : Nat → Answer} (hvalid : p.config.violation? = none)
    (hres : res.Suffice p.config.concurrency.toNat)
    (ht : p.transport.Serial p.config.url answer after nth) (hs : after session.memory k)
    (σ : Schedule) :
    ∃ s', (∀ sink, batch p false false σ session sink res
        = printLine (finishedLine p.config.count.toNat p.config) s' sink fun sink =>
          ⟨.value (), s', sink⟩)
      ∧ s'.requests = session.requests + p.config.count.toNat
      ∧ after s'.memory (k + p.config.count.toNat) := by
  obtain ⟨es, given, s', memory', hbatch, -, -, hrequests, hafter⟩ :=
    Prober.batch_shown hvalid hres ht (s := session.note (.batchRun p.config false false)) hs
      Prober.ignoring σ ()
  rw [Session.requests_note] at hrequests
  refine ⟨s', fun sink => ?_, hrequests, hafter⟩
  simp only [batch, Bool.or_self, Bool.false_eq_true, if_false, Prober.discard, hbatch]

/-- A mode in which something is counted makes its calls, counts their outcomes and then shows one
line, to whatever sink. -/
theorem counted_line {answer : Nat → Answer} (hvalid : p.config.violation? = none)
    (hres : res.Suffice p.config.concurrency.toNat)
    (ht : p.transport.Serial p.config.url answer after nth) (hs : after session.memory k)
    (σ : Schedule) {strict json : Bool} (hcounted : (strict || json) = true) :
    ∃ summary s', (∀ sink, batch p strict json σ session sink res
        = printLine (if json then summary.json else countedLine summary p.config) s' sink
          fun sink => ⟨verdict p.config strict summary, s', sink⟩)
      ∧ summary.Counts (Prober.outcomes answer k p.config.count.toNat)
      ∧ s'.requests = session.requests + p.config.count.toNat
      ∧ after s'.memory (k + p.config.count.toNat) := by
  obtain ⟨summary, s', hcollect, hcounts, hrequests, hafter⟩ :=
    Prober.collect_served hvalid hres ht
      (s := session.note (.batchRun p.config strict json)) hs σ
  rw [Session.requests_note] at hrequests
  refine ⟨summary, s', fun sink => ?_, hcounts, hrequests, hafter⟩
  simp only [batch, hcounted, if_true, hcollect]

/-- A mode in which nothing is counted makes its calls and ends well. -/
theorem uncounted_run (hvalid : p.config.violation? = none)
    (hres : res.Suffice p.config.concurrency.toNat)
    (ht : p.transport.Serial p.config.url (fun n => .returned (result n)) after nth)
    (hs : after session.memory k) (hroom : sink.room = none) (σ : Schedule) :
    ∃ s', batch p false false σ session sink res
        = ⟨.value (), s', sink.withLine (finishedLine p.config.count.toNat p.config)⟩
      ∧ s'.requests = session.requests + p.config.count.toNat
      ∧ after s'.memory (k + p.config.count.toNat) := by
  obtain ⟨s', hline, hrun⟩ := uncounted_line hvalid hres ht hs σ
  exact ⟨s', (hline sink).trans (printLine_eq hroom ..), hrun⟩

/-- A mode in which something is counted makes its calls and counts their results. -/
theorem counted_run (hvalid : p.config.violation? = none)
    (hres : res.Suffice p.config.concurrency.toNat)
    (ht : p.transport.Serial p.config.url (fun n => .returned (result n)) after nth)
    (hs : after session.memory k) (hroom : sink.room = none) (σ : Schedule) {strict json : Bool}
    (hcounted : (strict || json) = true) :
    ∃ summary s', batch p strict json σ session sink res
        = ⟨verdict p.config strict summary, s',
          sink.withLine (if json then summary.json else countedLine summary p.config)⟩
      ∧ summary.Counts (Prober.outcomes (fun n => .returned (result n)) k p.config.count.toNat)
      ∧ s'.requests = session.requests + p.config.count.toNat
      ∧ after s'.memory (k + p.config.count.toNat) := by
  obtain ⟨summary, s', hline, hrun⟩ := counted_line hvalid hres ht hs σ hcounted
  exact ⟨summary, s', (hline sink).trans (printLine_eq hroom ..), hrun⟩

/-! ## All modes -/

/-- Only a strict batch fails, with the number of outcomes that are not good. -/
theorem verdict_eq (config : Config) (strict : Bool) {os : List Outcome} {summary : Summary}
    (h : summary.Counts os) (hlt : os.length < UInt64.size) (hne : os ≠ []) :
    verdict config strict summary
      = if strict = true ∧ 0 < Summary.tally os .bad + Summary.tally os .failed then
          .failure (strictReport config (Summary.tally os .bad + Summary.tally os .failed)
            os.length)
        else .value () := by
  cases strict with
  | false => rw [if_neg (by rintro ⟨⟨⟩, -⟩), verdict, if_neg (by decide)]
  | true =>
      rw [verdict_of_counts config h hlt hne, tally_add_eq_failures]
      by_cases hzero : failures os = 0
      · rw [if_pos hzero, if_neg fun hsome => absurd hzero (Nat.ne_of_gt hsome.2)]
      · rw [if_neg hzero, if_pos ⟨rfl, Nat.pos_of_ne_zero hzero⟩]

/-- That a batch is over. -/
def finishedText (config : Config) (count : Nat) : String :=
  "Finished " ++ Numeral.decimal count ++ " probes against " ++ config.authority

/-- That a batch is over, and its counts. -/
def countedText (config : Config) (count good bad failed : Nat) : String :=
  finishedText config count ++ ": " ++ Numeral.decimal good ++ " ok, "
    ++ Numeral.decimal bad ++ " bad response, " ++ Numeral.decimal failed ++ " failed"

/-- What a batch shows, when `line` is how its counts look as JSON. -/
def shown (config : Config) (strict json : Bool) (line : String) (count good bad failed : Nat) :
    String :=
  if json then line
  else if strict then countedText config count good bad failed
  else finishedText config count

/-- A mode in which something is counted shows the counts. -/
theorem shown_of_counts (config : Config) {os : List Outcome} {summary : Summary}
    (h : summary.Counts os) {strict json : Bool} (hcounted : (strict || json) = true) :
    (if json then summary.json else countedLine summary config)
      = shown config strict json summary.json os.length (Summary.tally os .good)
        (Summary.tally os .bad) (Summary.tally os .failed) := by
  cases json with
  | true => rfl
  | false =>
      obtain rfl : strict = true := by simpa using hcounted
      rw [← h.total, ← h.counter .good, ← h.counter .bad, ← h.counter .failed]
      rfl

/-- Whatever its mode, a batch makes as many calls as it is to make, and ends well unless it is
strict and some result is not good; then it reports how many are not. -/
theorem modes_agree (hvalid : p.config.violation? = none)
    (hres : res.Suffice p.config.concurrency.toNat)
    (ht : p.transport.Serial p.config.url (fun n => .returned (result n)) after nth)
    (hs : after session.memory k) (hroom : sink.room = none) :
    let count := p.config.count.toNat
    let good := Summary.amount result k count .good
    let bad := Summary.amount result k count .bad
    let failed := Summary.amount result k count .failed
    ∃ line, '\n' ∉ line.toList
      ∧ Json.members? line = some [("total", count), ("succeeded", good), ("bad_status", bad),
        ("failed", failed)]
      ∧ ∀ (strict json : Bool) (σ : Schedule), ∃ s',
        batch p strict json σ session sink res
          = ⟨if strict = true ∧ 0 < bad + failed then
              .failure (strictReport p.config (bad + failed) count)
            else .value (), s',
            sink.withLine (shown p.config strict json line count good bad failed)⟩
        ∧ s'.requests = session.requests + count ∧ after s'.memory (k + count) := by
  intro count good bad failed
  have htally := Summary.tally_outcomes result k count
  have hlength : (Prober.outcomes (fun n => .returned (result n)) k count).length = count := by
    simp [Prober.outcomes_returned]
  have hlt : (Prober.outcomes (fun n => .returned (result n)) k count).length < UInt64.size := by
    rw [hlength]
    exact p.config.count.toNat_lt
  have hne : Prober.outcomes (fun n => .returned (result n)) k count ≠ [] := by
    refine List.ne_nil_of_length_pos ?_
    rw [hlength]
    exact (Prober.pos_of_valid hvalid).1
  -- every mode that counts has this summary
  obtain ⟨summary, -, hcounts⟩ := Summary.exists_ofList hlt
  have hmembers := hcounts.members_eq
  rw [htally, htally, htally, hlength] at hmembers
  obtain ⟨hline, hread⟩ := summary.json_line
  refine ⟨summary.json, hline, hread.trans (congrArg some hmembers), fun strict json σ => ?_⟩
  cases hcounted : strict || json with
  | false =>
      obtain ⟨rfl, rfl⟩ := Bool.or_eq_false_iff.mp hcounted
      exact uncounted_run hvalid hres ht hs hroom σ
  | true =>
      obtain ⟨summary', s', hrun, hcounts', hrequests, hafter⟩ :=
        counted_run hvalid hres ht hs hroom σ hcounted
      obtain rfl := hcounts'.unique hcounts
      have hending := verdict_eq p.config strict hcounts hlt hne
      have htext := shown_of_counts p.config hcounts hcounted
      rw [htally, htally, hlength] at hending
      rw [htally, htally, htally, hlength] at htext
      exact ⟨s', by rw [hrun, hending, htext], hrequests, hafter⟩

/-- Two good answers, one bad, and a fault, shown in each of the three ways. -/
theorem mixed_modes_agree :
    (∃ line,
      Json.members? line
        = some [("total", 4), ("succeeded", 2), ("bad_status", 1), ("failed", 1)]
      ∧ (batch mixedProber true true .inTurn (.begin 0) .endless).sink
        = Sink.endless.withLine line)
    ∧ (batch mixedProber true false .inTurn (.begin 0) .endless).sink
      = Sink.endless.withLine
        "Finished 4 probes against 127.0.0.1:8005: 2 ok, 1 bad response, 1 failed"
    ∧ (batch mixedProber false false .inTurn (.begin 0) .endless).sink
      = Sink.endless.withLine "Finished 4 probes against 127.0.0.1:8005"
    ∧ (batch mixedProber true true .inTurn (.begin 0) .endless).ending
      = .failure ⟨"2 of 4 probes against 127.0.0.1:8005 failed", []⟩
    ∧ (batch mixedProber true true .inTurn (.begin 0) .endless).session.requests = 4 := by
  have hbegin : (Session.begin 0 : Session Nat).memory = 0 := rfl
  have hendless : Sink.endless.room = none := rfl
  obtain ⟨line, -, hline, hrun⟩ := modes_agree (p := mixedProber) (by decide)
    (Pool.Resources.ample_suffice (by decide))
    (Transport.numbered_serial (fun n _ => .returned (mixed n)) _) hbegin hendless
  obtain ⟨s, hjson, hrequests, -⟩ := hrun true true .inTurn
  obtain ⟨s₁, htext, -⟩ := hrun true false .inTurn
  obtain ⟨s₂, hplain, -⟩ := hrun false false .inTurn
  rw [hjson, htext, hplain]
  dsimp only
  refine ⟨⟨line, hline, rfl⟩, ?_, ?_, by decide +kernel, hrequests⟩
  · exact congrArg Sink.endless.withLine (show countedText mixedProber.config 4 2 1 1 = _ by
      decide +kernel)
  · exact congrArg Sink.endless.withLine (show finishedText mixedProber.config 4 = _ by
      decide +kernel)

end FrontEnd

end Liveness

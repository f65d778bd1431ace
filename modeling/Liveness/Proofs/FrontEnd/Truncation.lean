import Liveness.Proofs.FrontEnd.Modes
import Liveness.Proofs.Probe.Course

/-!
# What a sink without room loses

A sink that takes so many bytes and no more gets the beginning of the text that an endless one
gets. If that is the whole text the run ends as it does with the endless sink. If something of it is
lost the run fails with the sink, whatever it had to report: the refusal of the sink is all that it
says. Either way it has made the same calls.

A front end knows all the lines that it will show, and how it will end if they are taken, before it
shows the first. So a run is a list of lines, an end and a session, printed to a sink, and what a
sink does to it is settled once for such lists.
-/

namespace Liveness

namespace FrontEnd

variable {S C : Type} {p : Prober S C} {answer : Nat → Answer} {after : S → Nat → Prop}
  {nth : C → Nat → Prop}

/-! ## Lines and sinks -/

/-- The bytes of a line with its line break. -/
def lineBytes (line : String) : List UInt8 := Utf8.encode (line ++ "\n").toList

/-- The end of a run whose sink has no more room. -/
def refusal : Ending Failure Unit := .failure ⟨Sink.fullMessage, []⟩

theorem printLine_of_fits {line : String} {room : Nat} (h : (lineBytes line).length ≤ room)
    (session : Session S) (shown : List UInt8) (next : Sink → Run S) :
    printLine line session ⟨shown, some room⟩ next
      = next ⟨shown ++ lineBytes line, some (room - (lineBytes line).length)⟩ := by
  have hwrite : Sink.write (line ++ "\n") ⟨shown, some room⟩
      = (true, ⟨shown ++ lineBytes line, some (room - (lineBytes line).length)⟩) := by
    rw [lineBytes] at h
    simp only [Sink.write, lineBytes, h, List.take_of_length_le h, decide_true]
  rw [printLine, hwrite]

theorem printLine_of_lt {line : String} {room : Nat} (h : room < (lineBytes line).length)
    (session : Session S) (shown : List UInt8) (next : Sink → Run S) :
    printLine line session ⟨shown, some room⟩ next
      = ⟨refusal, session, ⟨shown ++ (lineBytes line).take room, some 0⟩⟩ := by
  have hwrite : Sink.write (line ++ "\n") ⟨shown, some room⟩
      = (false, ⟨shown ++ (lineBytes line).take room, some 0⟩) := by
    rw [lineBytes] at h
    simp only [Sink.write, lineBytes, decide_eq_false (Nat.not_le.mpr h),
      Nat.sub_eq_zero_of_le (Nat.le_of_lt h)]
  rw [printLine, hwrite]
  rfl

/-- Shows lines one after the other and then ends. -/
def printLines (ending : Ending Failure Unit) (session : Session S) : List String → Sink → Run S
  | [], sink => ⟨ending, session, sink⟩
  | line :: rest, sink => printLine line session sink (printLines ending session rest)

theorem printLines_endless (ending : Ending Failure Unit) (session : Session S)
    (lines : List String) (shown : List UInt8) :
    printLines ending session lines ⟨shown, none⟩
      = ⟨ending, session, ⟨shown ++ lines.flatMap lineBytes, none⟩⟩ := by
  induction lines generalizing shown with
  | nil => rw [List.flatMap_nil, List.append_nil, printLines]
  | cons line rest ih =>
      rw [printLines, printLine_eq rfl, List.flatMap_cons, ← List.append_assoc]
      exact ih _

/-- Of the lines as many bytes are shown as there is room for. If these are not all of them the end
is a refusal. -/
theorem printLines_limited (ending : Ending Failure Unit) (session : Session S)
    (lines : List String) (shown : List UInt8) (room : Nat) :
    let bytes := lines.flatMap lineBytes
    printLines ending session lines ⟨shown, some room⟩
      = ⟨if bytes.length ≤ room then ending else refusal, session,
        ⟨shown ++ bytes.take room, some (room - bytes.length)⟩⟩ := by
  induction lines generalizing shown room with
  | nil => simp [printLines]
  | cons line rest ih =>
      dsimp only at ih ⊢
      rw [printLines, List.flatMap_cons, List.length_append, List.take_append]
      by_cases hfits : (lineBytes line).length ≤ room
      · have hiff : (rest.flatMap lineBytes).length ≤ room - (lineBytes line).length
            ↔ (lineBytes line).length + (rest.flatMap lineBytes).length ≤ room := by omega
        rw [printLine_of_fits hfits, ih, List.take_of_length_le hfits, List.append_assoc,
          Nat.sub_sub]
        simp only [hiff]
      · have hlt := Nat.not_le.mp hfits
        rw [printLine_of_lt hlt, if_neg (by omega), Nat.sub_eq_zero_of_le (Nat.le_of_lt hlt),
          List.take_zero, List.append_nil, Nat.sub_eq_zero_of_le (by omega)]

/-! ## What a run shows -/

/-- What a front end is asked for. -/
inductive Mode where
  | single
  | batch (strict json : Bool)

/-- Runs the front end in a mode; a single request follows no schedule and starts no worker. -/
def Mode.run (mode : Mode) (p : Prober S C) (res : Pool.Resources) (σ : Schedule)
    (session : Session S) (sink : Sink) : Run S :=
  match mode with
  | .single => FrontEnd.single p session sink
  | .batch strict json => FrontEnd.batch p strict json σ session sink res

/-- The lines of a single run: the status that its request shows, and that it is good. -/
def singleLines (config : Config) (found : Ending Fault Response) : List String :=
  ((shownStatus? found).map statusLine).toList ++
    match found with
    | .value _ => ["Got a good response from " ++ config.authority]
    | _ => []

theorem single_eq_printLines (p : Prober S C) (session : Session S) (sink : Sink) :
    let request := p.once (session.note (.singleRun p.config))
    single p session sink
      = printLines (singleEnding p.config request.1) request.2 (singleLines p.config request.1)
        sink := by
  cases honce : p.once (session.note (.singleRun p.config)) with
  | mk found s' =>
      simp only [single, honce]
      cases found with
      | failure fault => cases fault <;> rfl
      | _ => rfl

/-- The counts of the outcomes of a batch do not depend on the schedule, so neither does the line
that shows them nor the verdict on them. -/
theorem batch_lines (ht : p.transport.Serial p.config.url answer after nth) {k : Nat}
    {session : Session S} (hs : after session.memory k) (strict json : Bool)
    (res : Pool.Resources) :
    ∃ lines ending calls, ∀ σ, ∃ s', s'.requests = calls
      ∧ ∀ sink, batch p strict json σ session sink res = printLines ending s' lines sink := by
  have hnote : (session.note (.batchRun p.config strict json)).requests = session.requests :=
    Session.requests_note ..
  cases hv : p.config.violation? with
  | some v =>
      refine ⟨[], .failure (startFailure p.config (.invalidConfig v.message)), session.requests,
        fun σ => ⟨_, hnote, fun sink => ?_⟩⟩
      simp only [batch, Prober.collect_rejected hv, Prober.discard_rejected hv, ite_self,
        printLines]
  | none =>
      cases hd : Pool.hindrance? res p.config.concurrency.toNat with
      | some d =>
          exact ⟨[], d.ending.mapFailure (startFailure p.config), session.requests,
            fun σ => ⟨_, hnote, fun sink => batch_of_hindrance hv hd strict json σ session sink⟩⟩
      | none =>
          obtain ⟨-, hres⟩ := Pool.hindrance?_eq_none_iff.mp hd
          cases hcounted : strict || json with
          | false =>
              obtain ⟨rfl, rfl⟩ := Bool.or_eq_false_iff.mp hcounted
              refine ⟨[finishedLine p.config.count.toNat p.config], .value (),
                session.requests + p.config.count.toNat, fun σ => ?_⟩
              obtain ⟨s', hline, hrequests, -⟩ := uncounted_line hv hres ht hs σ
              exact ⟨s', hrequests, hline⟩
          | true =>
              obtain ⟨summary, -, -, hcounts, -⟩ :=
                counted_line hv hres ht hs .workersFirst hcounted
              refine ⟨[if json then summary.json else countedLine summary p.config],
                verdict p.config strict summary, session.requests + p.config.count.toNat,
                fun σ => ?_⟩
              obtain ⟨summary', s', hline, hcounts', hrequests, -⟩ :=
                counted_line hv hres ht hs σ hcounted
              obtain rfl := hcounts'.unique hcounts
              exact ⟨s', hrequests, hline⟩

/-- What a run shows, how it ends when all of that is taken, and how many calls it makes is settled
by the mode and the answers, for every schedule and every sink. -/
theorem run_lines (ht : p.transport.Serial p.config.url answer after nth) {k : Nat}
    {session : Session S} (hs : after session.memory k) (mode : Mode) (res : Pool.Resources) :
    ∃ lines ending calls, ∀ σ, ∃ s', s'.requests = calls
      ∧ ∀ sink, mode.run p res σ session sink = printLines ending s' lines sink := by
  cases mode with
  | single => exact ⟨_, _, _, fun _ => ⟨_, rfl, single_eq_printLines p session⟩⟩
  | batch strict json => exact batch_lines ht hs strict json res

/-! ## Two sinks -/

/-- Two runs of a front end on one session and one system, under any two schedules: one to a sink
that takes everything, the other to one that takes `limit` bytes. The second shows the beginning of
what the first shows, and ends in the same way unless something is lost. Then it reports the refusal
of the sink and nothing else, whatever the first reports. Both make the same number of calls. -/
theorem limit_truncates (ht : p.transport.Serial p.config.url answer after nth) {k : Nat}
    {session : Session S} (hs : after session.memory k) (mode : Mode) (res : Pool.Resources)
    (σ σ' : Schedule) (limit : Nat) :
    let whole := mode.run p res σ session .endless
    let cut := mode.run p res σ' session (.ofLimit limit)
    cut.sink.bytes = whole.sink.bytes.take (min limit whole.sink.bytes.length)
      ∧ (whole.sink.bytes.length ≤ limit → cut.ending = whole.ending)
      ∧ (limit < whole.sink.bytes.length → cut.ending = .failure ⟨Sink.fullMessage, []⟩)
      ∧ cut.session.requests = whole.session.requests := by
  obtain ⟨lines, ending, calls, hlines⟩ := run_lines ht hs mode res
  obtain ⟨s, hcalls, hwhole⟩ := hlines σ
  obtain ⟨s', hcalls', hcut⟩ := hlines σ'
  simp only [hwhole, hcut, Sink.endless, Sink.ofLimit, printLines_endless, printLines_limited,
    List.nil_append]
  exact ⟨List.take_eq_take_min, fun hle => if_pos hle, fun hlt => if_neg (Nat.not_le.mpr hlt),
    hcalls'.trans hcalls.symm⟩

/-- A strict batch of four, of which two are not good. With room for ten bytes it shows the
beginning of its counts, and does not get to report the two. -/
theorem limit_hides_strict_failure :
    let whole := batch mixedProber true true .inTurn (.begin 0) .endless
    let cut := batch mixedProber true true .workersFirst (.begin 0) (.ofLimit 10)
    whole.ending = .failure ⟨"2 of 4 probes against 127.0.0.1:8005 failed", []⟩
      ∧ cut.ending = .failure ⟨Sink.fullMessage, []⟩
      ∧ cut.sink.bytes = Utf8.encode "\x7b\"total\":4".toList
      ∧ cut.session.requests = 4 := by
  intro whole cut
  have hbegin : (Session.begin 0 : Session Nat).memory = 0 := rfl
  obtain ⟨hbytes, -, hrefused, hcalls⟩ := limit_truncates (p := mixedProber)
    (Transport.numbered_serial (fun n _ => .returned (mixed n)) _) hbegin (.batch true true)
    .ample .inTurn .workersFirst 10
  have hlost : 10 < whole.sink.bytes.length := by decide +kernel
  refine ⟨by decide +kernel, hrefused hlost, hbytes.trans (by decide +kernel), hcalls.trans ?_⟩
  decide +kernel

end FrontEnd

end Liveness

import Liveness.Probe.Course
import Liveness.Proofs.Probe.Serial

/-!
# Courses do not depend on the workers

What the steps of a course find is settled by the endpoint, the size of a batch and the answers
to the calls by number: each step uses up the next block of answers, one by one as it were, and
leaves nothing behind that the next step could see. So neither the number of workers nor the
schedule of any step makes a difference, but for the order in which the outcomes of a batch are
handed over.
-/

namespace Liveness

namespace Prober

variable {S C K : Type} {p : Prober S C} {answer : Nat → Answer} {after : S → Nat → Prop}
  {nth : C → Nat → Prop} {s : Session S} {res : Pool.Resources}

/-- The prober with another number of workers for its batches. -/
def withWorkers (p : Prober S C) (workers : UInt64) : Prober S C :=
  { p with config := { p.config with concurrency := workers } }

theorem violation?_withWorkers {c c' : UInt64} (hc : 0 < c.toNat) (hc' : 0 < c'.toNat) :
    (p.withWorkers c).config.violation? = (p.withWorkers c').config.violation? := by
  have hne : ∀ {c : UInt64}, 0 < c.toNat → c ≠ 0 := by
    rintro c hpos rfl
    exact absurd hpos (Nat.lt_irrefl 0)
  simp only [Config.violation?, withWorkers, hne hc, hne hc', if_false]

/-- A configuration that breaks a rule keeps a batch from starting. -/
theorem batch_rejected {v : Config.Violation} (hv : p.config.violation? = some v)
    (receiver : Receiver K) (σ : Schedule) (memory : K) :
    p.batch receiver σ s memory res = (.failure (.invalidConfig v.message), s, memory) := by
  have hstart : p.start receiver s memory res = .failure (.invalidConfig v.message) := by
    simp only [start, rejection?, hv, Option.map_some]
  rw [batch, hstart]
  rfl

theorem once_rejected {v : Config.Violation} (hv : p.config.violation? = some v)
    (s : Session S) : p.once s = (.failure (.invalidConfig v.message), s) := by
  simp only [once, rejection?, hv, Option.map_some]

theorem collect_rejected {v : Config.Violation} (hv : p.config.violation? = some v)
    (σ : Schedule) (s : Session S) :
    p.collect σ s res = (.failure (.invalidConfig v.message), s) := by
  rw [collect, batch_rejected hv]
  rfl

theorem discard_rejected {v : Config.Violation} (hv : p.config.violation? = some v)
    (σ : Schedule) (s : Session S) :
    p.discard σ s res = (.failure (.invalidConfig v.message), s) := by
  rw [discard, batch_rejected hv]

end Prober

/-- Findings that differ at most in the order of the outcomes kept. -/
inductive Finding.Alike : Finding → Finding → Prop where
  | refl (f : Finding) : Alike f f
  | kept {ending : Ending Fault Unit} {os os' : List Outcome} (h : os.Perm os') :
      Alike (.kept ending os) (.kept ending os')

theorem Finding.Alike.of_common {f g h : Finding} (hf : f.Alike h) (hg : g.Alike h) :
    f.Alike g := by
  cases hf with
  | refl =>
      cases hg with
      | refl => exact .refl _
      | kept hperm => exact .kept hperm.symm
  | kept hperm =>
      cases hg with
      | refl => exact .kept hperm
      | kept hperm' => exact .kept (hperm.trans hperm'.symm)

namespace ProbeStep

variable {S C : Type} {p : Prober S C} {answer : Nat → Answer} {after : S → Nat → Prop}
  {nth : C → Nat → Prop} {s : Session S} {res res' : Pool.Resources}

/-! ## Forecasts -/

/-- What a step is going to find, the outcomes that will be handed over in its course, and how
many calls it will make. -/
structure Forecast where
  finding : Finding
  handed : List Outcome
  calls : Nat

/-- What a step finds that a fault keeps from starting. -/
def rejected (fault : Fault) : ProbeStep → Finding
  | .once => .answer (.failure fault)
  | .collect => .counts (.failure fault)
  | .discard => .nothing (.failure fault)
  | .hand _ => .kept (.failure fault) []

/-- The counts of some outcomes. -/
def counted (os : List Outcome) : Ending Fault Summary :=
  match Summary.ofList os with
  | .ok summary => .value summary
  | .error _ => .abort overflowMessage

/-- The forecast for a step that makes its calls one after the other, from call number `k`
on. -/
def forecast (config : Config) (answer : Nat → Answer) (k : Nat) (step : ProbeStep) : Forecast :=
  match config.violation? with
  | some v => ⟨step.rejected (.invalidConfig v.message), [], 0⟩
  | none =>
    let count := config.count.toNat
    let os := Prober.outcomes answer k count
    match step with
    | .once => ⟨.answer (answer k).ending, [], 1⟩
    | .collect => ⟨.counts (counted os), os, count⟩
    | .discard => ⟨.nothing (.value ()), os, count⟩
    | .hand panics => ⟨.kept (.value ()) (os.filter fun o => !panics o), os, count⟩

/-- The forecasts for steps one after the other, each with the number of calls made by then. -/
def forecastAll (config : Config) (answer : Nat → Answer) : List ProbeStep → Nat →
    List (Forecast × Nat)
  | [], _ => []
  | step :: rest, k =>
    let f := step.forecast config answer k
    (f, k + f.calls) :: forecastAll config answer rest (k + f.calls)

/-- The outcomes handed over between two moments of a session. -/
def handedIn (s s' : Session S) : List Outcome :=
  Event.deliveries (s'.history.drop s.history.length)

/-- The outcomes handed over in the course of each step. -/
def handedAll (p : Prober S C) (res : Pool.Resources) : List (ProbeStep × Schedule) → Session S →
    List (List Outcome)
  | [], _ => []
  | (step, σ) :: rest, s =>
    let s' := (step.run p σ s res).2
    handedIn s s' :: handedAll p res rest s'

theorem handedIn_of_history {s' : Session S} {es : List Event}
    (h : s'.history = s.history ++ es) : handedIn s s' = Event.deliveries es := by
  rw [handedIn, h, List.drop_left]

theorem feed_keepingUnless (panics : Outcome → Bool) (os kept : List Outcome) :
    Receiver.feed (keepingUnless panics) kept os
      = (os.filter fun o => !panics o).reverse ++ kept := by
  induction os generalizing kept with
  | nil => rfl
  | cons o os ih =>
      have hcons : Receiver.feed (keepingUnless panics) kept (o :: os)
          = Receiver.feed (keepingUnless panics) (if panics o then kept else o :: kept) os := by
        cases ho : panics o <;>
          simp [Receiver.feed, keepingUnless, Reception.memory, ho]
      rw [hcons, ih]
      cases ho : panics o <;> simp [ho]

/-- A step that went from `s` to `s'` was as forecast. -/
structure Forecast.Met (f : Forecast) (finding : Finding) (s s' : Session S) : Prop where
  finding : finding.Alike f.finding
  handed : (handedIn s s').Perm f.handed
  requests : s'.requests = s.requests + f.calls

theorem run_rejected {v : Config.Violation} (hv : p.config.violation? = some v)
    (step : ProbeStep) (σ : Schedule) :
    step.run p σ s res = (step.rejected (.invalidConfig v.message), s) := by
  cases step with
  | once => rw [run, Prober.once_rejected hv, rejected]
  | collect => rw [run, Prober.collect_rejected hv, rejected]
  | discard => rw [run, Prober.discard_rejected hv, rejected]
  | hand panics => simp only [run, Prober.batch_rejected hv, rejected, List.reverse_nil]

/-- Whatever the schedule and the number of workers, a step is as forecast. -/
theorem run_met
    (hres : res.Suffice p.config.concurrency.toNat)
    (ht : p.transport.Serial p.config.url answer after nth) (hs : after s.memory s.requests)
    (step : ProbeStep) (σ : Schedule) :
    ∃ finding s', step.run p σ s res = (finding, s')
      ∧ (step.forecast p.config answer s.requests).Met finding s s'
      ∧ after s'.memory s'.requests := by
  cases hv : p.config.violation? with
  | some v =>
      refine ⟨_, s, run_rejected hv step σ, ?_, hs⟩
      simp only [forecast, hv]
      exact ⟨.refl _, by simp [handedIn, Event.deliveries], rfl⟩
  | none =>
      cases step with
      | once =>
          obtain ⟨es, s', honce, hhistory, hurls, hdeliveries, hafter⟩ :=
            Prober.once_served hv ht hs
          have hrequests : s'.requests = s.requests + 1 := by
            rw [Prober.requests_of_history hhistory, hurls, List.length_singleton]
          refine ⟨_, s', by rw [run, honce], ?_, hrequests ▸ hafter⟩
          simp only [forecast, hv]
          refine ⟨.refl _, ?_, hrequests⟩
          rw [handedIn_of_history hhistory, hdeliveries]
      | collect =>
          obtain ⟨es, given, s', kept, hbatch, hacc, hperm, hrequests, hafter⟩ :=
            Prober.batch_shown hv hres ht hs Prober.keeping σ []
          obtain ⟨summary, hcollect, -, hcounts⟩ := hacc.collect hbatch
          have hcounted : counted (Prober.outcomes answer s.requests p.config.count.toNat)
              = .value summary := by
            rw [counted, Summary.ofList_eq_ok_iff.mpr (hcounts.perm hperm)]
          refine ⟨_, s', by rw [run, hcollect], ?_, hrequests ▸ hafter⟩
          simp only [forecast, hv, hcounted]
          refine ⟨.refl _, ?_, hrequests⟩
          rw [handedIn_of_history hacc.history]
          exact hperm
      | discard =>
          obtain ⟨es, given, s', memory', hbatch, hacc, hperm, hrequests, hafter⟩ :=
            Prober.batch_shown hv hres ht hs Prober.ignoring σ ()
          refine ⟨_, s', by rw [run, Prober.discard, hbatch], ?_, hrequests ▸ hafter⟩
          simp only [forecast, hv]
          refine ⟨.refl _, ?_, hrequests⟩
          rw [handedIn_of_history hacc.history]
          exact hperm
      | hand panics =>
          obtain ⟨es, given, s', kept, hbatch, hacc, hperm, hrequests, hafter⟩ :=
            Prober.batch_shown hv hres ht hs (keepingUnless panics) σ []
          have hkept : kept.reverse = (Event.deliveries es).filter fun o => !panics o := by
            have hmem : kept = Receiver.feed (keepingUnless panics) [] (Event.deliveries es) :=
              hacc.memory
            rw [hmem, feed_keepingUnless, List.append_nil, List.reverse_reverse]
          refine ⟨_, s', by rw [run, hbatch], ?_, hrequests ▸ hafter⟩
          simp only [forecast, hv]
          refine ⟨?_, ?_, hrequests⟩
          · rw [hkept]
            exact .kept (hperm.filter _)
          · rw [handedIn_of_history hacc.history]
            exact hperm

/-! ## Courses -/

/-- A course of steps is as forecast, one step after the other. -/
theorem runAll_met
    (hres : res.Suffice p.config.concurrency.toNat)
    (ht : p.transport.Serial p.config.url answer after nth) (hs : after s.memory s.requests)
    (course : List (ProbeStep × Schedule)) :
    List.Forall₂ (fun r f => r.1.Alike f.1.finding ∧ r.2 = f.2) (runAll p res course s).1
        (forecastAll p.config answer (course.map Prod.fst) s.requests)
      ∧ List.Forall₂ (fun os f => os.Perm f.1.handed) (handedAll p res course s)
        (forecastAll p.config answer (course.map Prod.fst) s.requests) := by
  induction course generalizing s with
  | nil => exact ⟨.nil, .nil⟩
  | cons first rest ih =>
      obtain ⟨step, σ⟩ := first
      obtain ⟨finding, s', hrun, hmet, hafter⟩ := run_met hres ht hs step σ
      obtain ⟨hfindings, hhanded⟩ := ih hafter
      simp only [runAll, handedAll, forecastAll, List.map_cons, hrun, ← hmet.requests]
      exact ⟨.cons ⟨hmet.finding, rfl⟩ hfindings, .cons hmet.handed hhanded⟩

theorem forall₂_of_common {α β : Type} {R : α → β → Prop} {T : α → α → Prop}
    (h : ∀ {a a' b}, R a b → R a' b → T a a') {as as' : List α} {bs : List β}
    (has : List.Forall₂ R as bs) (has' : List.Forall₂ R as' bs) : List.Forall₂ T as as' := by
  induction has generalizing as' with
  | nil =>
      cases has'
      exact .nil
  | cons hab _ ih =>
      cases has' with
      | cons hab' hrest => exact .cons (h hab hab') (ih hrest)

theorem forecastAll_withWorkers {c c' : UInt64} (hc : 0 < c.toNat) (hc' : 0 < c'.toNat)
    (steps : List ProbeStep) (k : Nat) :
    forecastAll (p.withWorkers c).config answer steps k
      = forecastAll (p.withWorkers c').config answer steps k := by
  have hforecast : ∀ (step : ProbeStep) (k : Nat),
      step.forecast (p.withWorkers c).config answer k
        = step.forecast (p.withWorkers c').config answer k := by
    intro step k
    rw [forecast, forecast, Prober.violation?_withWorkers hc hc']
    rfl
  induction steps generalizing k with
  | nil => rfl
  | cons step rest ih => rw [forecastAll, forecastAll, hforecast, ih]

/-- Two runs of the same steps on one prober, with any two numbers of workers and under any
schedules: each step finds the same, has made the same number of calls by its end, and handed
over the same outcomes, in whatever order. What they find is what was forecast for calls made
one after the other. -/
theorem findings_agree {c c' : UInt64} (hc : 0 < c.toNat) (hc' : 0 < c'.toNat)
    (hres : res.Suffice c.toNat) (hres' : res'.Suffice c'.toNat)
    (ht : p.transport.Serial p.config.url answer after nth) (hs : after s.memory s.requests)
    {course course' : List (ProbeStep × Schedule)}
    (hsteps : course.map Prod.fst = course'.map Prod.fst) :
    List.Forall₂ (fun r r' => r.1.Alike r'.1 ∧ r.2 = r'.2)
        (runAll (p.withWorkers c) res course s).1 (runAll (p.withWorkers c') res' course' s).1
      ∧ List.Forall₂ List.Perm (handedAll (p.withWorkers c) res course s)
        (handedAll (p.withWorkers c') res' course' s)
      ∧ List.Forall₂ (fun r f => r.1.Alike f.1.finding ∧ r.2 = f.2)
        (runAll (p.withWorkers c) res course s).1
        (forecastAll (p.withWorkers c).config answer (course.map Prod.fst) s.requests) := by
  obtain ⟨hfindings, hhanded⟩ := runAll_met (p := p.withWorkers c) hres ht hs course
  obtain ⟨hfindings', hhanded'⟩ := runAll_met (p := p.withWorkers c') hres' ht hs course'
  rw [← hsteps, ← forecastAll_withWorkers hc hc'] at hfindings' hhanded'
  refine ⟨forall₂_of_common ?_ hfindings hfindings', forall₂_of_common ?_ hhanded hhanded',
    hfindings⟩
  · rintro r r' f ⟨hr, hcalls⟩ ⟨hr', hcalls'⟩
    exact ⟨hr.of_common hr', hcalls.trans hcalls'.symm⟩
  · intro os os' f hos hos'
    exact hos.trans hos'.symm

/-- A single request, a batch that is counted and a batch whose receiver panics, by one worker
and by three; some calls panic, too. -/
def rehearsed : Prober Nat (Nat × String) where
  config := ⟨"127.0.0.1", 8005, 4, 1⟩
  transport := Script.transport [.status 200, .answer (.panicked "boom"), .status 503, .refused]

theorem findings_agree_of_rehearsed :
    List.Forall₂ (fun r r' => r.1.Alike r'.1 ∧ r.2 = r'.2)
      (runAll (rehearsed.withWorkers 1) .ample [(.once, .workersFirst), (.collect, .workersFirst),
        (.hand fun o => o.isGood, .workersFirst)] (.begin 0)).1
      (runAll (rehearsed.withWorkers 3) .ample [(.once, .inTurn), (.collect, .inTurn),
        (.hand fun o => o.isGood, .inTurn)] (.begin 0)).1 :=
  (findings_agree (p := rehearsed) (show 0 < (1 : UInt64).toNat by decide)
    (show 0 < (3 : UInt64).toNat by decide) (Pool.Resources.ample_suffice (by decide))
    (Pool.Resources.ample_suffice (by decide)) (Transport.numbered_serial _ _) rfl rfl).1

end ProbeStep

end Liveness

import Liveness.Proofs.Probe.Serial
import Liveness.Target.Transport

/-!
# Batches against a flaky target

A target that answers badly at every n-th hit counts its hits over all batches. So what a batch
reports depends on the hits that came before it: of the hits from `h + 1` to `h + count` those
whose number is a multiple of `n` are bad, whichever worker makes them. That number is a
difference of two quotients, and so batches made one after the other add up to one large batch.
-/

namespace Liveness

namespace Target

variable {C : Type} {t : Transport Target C} {status : Behavior → C → StatusCode}

/-- The transport hands each of its calls to the router of a target, as one GET of the root. The
router counts the hit when the call is sent. Whenever the answer comes, it has the status of the
router's reply. -/
structure Routed (t : Transport Target C) (status : Behavior → C → StatusCode) : Prop where
  send : ∀ url s, (t.send url s).2 = (Router.handle s rootRequest).2.1
    ∧ status s.behavior (t.send url s).1 = (Router.handle s rootRequest).1.status
  receive : ∀ c s, t.receive c s
    = (.returned (.ok (Response.ofStatus (status s.behavior c).value)), s)

theorem transport_routed : Routed transport statusFor where
  send url s := by
    rw [handle_rootRequest]
    exact ⟨rfl, rfl⟩
  receive _ _ := rfl

/-- What a target answers to the call that follows `k` hits. -/
def resultAfter (b : Behavior) (k : Nat) : Except Fault Response :=
  .ok (Response.ofStatus (statusFor b (k + 1)).value)

/-- A routed transport gives its calls the answers to the hits, by number. -/
theorem Routed.serial (h : Routed t status) (b : Behavior) (url : String) :
    t.Serial url (fun k => .returned (resultAfter b k)) (fun s k => s = ⟨b, k⟩)
      fun c k => status b c = statusFor b (k + 1) where
  send := by
    rintro _ k rfl
    obtain ⟨hafter, hstatus⟩ := h.send url ⟨b, k⟩
    rw [handle_rootRequest] at hafter hstatus
    exact ⟨hstatus, hafter⟩
  receive := by
    rintro c _ m k rfl hstatus
    rw [h.receive, hstatus]
    exact ⟨rfl, rfl⟩

/-! ## Bad hits -/

theorem kind_resultAfter (n k : Nat) :
    (Outcome.ofResult (resultAfter (.failEvery n) k)).kind
      = if 0 < n ∧ (k + 1) % n = 0 then .bad else .good := by
  rw [resultAfter, statusFor]
  split <;> rfl

/-- As many of the hits from `h + 1` to `h + count` are bad as there are multiples of `n`. -/
theorem countP_bad (n h count : Nat) :
    (List.range count).countP (fun i => decide (0 < n ∧ (h + i + 1) % n = 0))
      = if n = 0 then 0 else (h + count) / n - h / n := by
  split
  · rename_i hzero
    simp [hzero]
  · rename_i hne
    have hstart : h / n + (List.range count).countP
        (fun i => decide (0 < n ∧ (h + i + 1) % n = 0)) = (h + count) / n := by
      induction count with
      | zero => rfl
      | succ count ih =>
          -- one more hit raises the quotient exactly if its number is a multiple
          rw [List.range_succ, List.countP_append, ← Nat.add_assoc, ih, ← Nat.add_assoc,
            Nat.succ_div, List.countP_singleton]
          simp only [decide_eq_true_eq, Nat.dvd_iff_mod_eq_zero, Nat.pos_of_ne_zero hne,
            true_and]
    omega

/-- What is reported of a batch of `count` requests to a target that answers badly at every n-th
hit, when `h` hits came before. -/
structure Reported (n h count : Nat) (summary : Summary) : Prop where
  total : summary.total.toNat = count
  failed : summary.failed.toNat = 0
  badStatus : summary.badStatus.toNat = if n = 0 then 0 else (h + count) / n - h / n
  succeeded : summary.succeeded.toNat + summary.badStatus.toNat = count

theorem tally_resultAfter (n h count : Nat) (c : Outcome.Class) :
    Summary.tally (Prober.outcomes (fun k => .returned (resultAfter (.failEvery n) k)) h count) c
      = (List.range count).countP fun i =>
        decide ((if 0 < n ∧ (h + i + 1) % n = 0 then Outcome.Class.bad else .good) = c) := by
  rw [Prober.outcomes_returned, Summary.tally, List.countP_map]
  refine List.countP_congr fun i _ => ?_
  rw [Function.comp_apply, kind_resultAfter]

theorem reported_of_counts {n h count : Nat} {summary : Summary}
    (hcounts : summary.Counts
      (Prober.outcomes (fun k => .returned (resultAfter (.failEvery n) k)) h count)) :
    Reported n h count summary := by
  have htotal : summary.total.toNat = count := by
    rw [hcounts.total, Prober.outcomes_returned, List.length_map, List.length_range]
  have hfailed : summary.failed.toNat = 0 := by
    refine (hcounts.counter .failed).trans ((tally_resultAfter ..).trans ?_)
    refine List.countP_eq_zero.mpr fun i _ => ?_
    split <;> simp
  have hbad : summary.badStatus.toNat = if n = 0 then 0 else (h + count) / n - h / n := by
    refine (hcounts.counter .bad).trans ((tally_resultAfter ..).trans ?_)
    rw [← countP_bad]
    refine List.countP_congr fun i _ => ?_
    split <;> simp [*]
  have hsum := hcounts.total_eq
  exact ⟨htotal, hfailed, hbad, by omega⟩

/-- Two summaries that add up to a third. -/
structure AddUp (first second whole : Summary) : Prop where
  total : first.total.toNat + second.total.toNat = whole.total.toNat
  succeeded : first.succeeded.toNat + second.succeeded.toNat = whole.succeeded.toNat
  badStatus : first.badStatus.toNat + second.badStatus.toNat = whole.badStatus.toNat
  failed : first.failed.toNat + second.failed.toNat = whole.failed.toNat

theorem Reported.addUp {n h a b : Nat} {first second whole : Summary}
    (hfirst : Reported n h a first) (hsecond : Reported n (h + a) b second)
    (hwhole : Reported n h (a + b) whole) : AddUp first second whole := by
  have hbad : first.badStatus.toNat + second.badStatus.toNat = whole.badStatus.toNat := by
    rw [hfirst.badStatus, hsecond.badStatus, hwhole.badStatus, ← Nat.add_assoc]
    split
    · rfl
    · have hle : h / n ≤ (h + a) / n := Nat.div_le_div_right (Nat.le_add_right ..)
      have hle' : (h + a) / n ≤ (h + a + b) / n := Nat.div_le_div_right (Nat.le_add_right ..)
      omega
  have hgood := hfirst.succeeded
  have hgood' := hsecond.succeeded
  have hgood'' := hwhole.succeeded
  exact ⟨by rw [hfirst.total, hsecond.total, hwhole.total], by omega, hbad,
    by rw [hfirst.failed, hsecond.failed, hwhole.failed]⟩

/-! ## Batches -/

/-- A prober whose pool can be opened for its batch, over a routed transport. -/
structure Probes (p : Prober Target C) (res : Pool.Resources)
    (status : Behavior → C → StatusCode) : Prop where
  valid : p.config.violation? = none
  resources : res.Suffice p.config.concurrency.toNat
  routed : Routed p.transport status

theorem Probes.collect {p : Prober Target C} {res : Pool.Resources} (hp : Probes p res status)
    {n h : Nat} {s : Session Target} (hs : s.memory = ⟨.failEvery n, h⟩) (σ : Schedule) :
    ∃ summary s', p.collect σ s res = (.value summary, s')
      ∧ Reported n h p.config.count.toNat summary
      ∧ s'.memory = ⟨.failEvery n, h + p.config.count.toNat⟩ := by
  obtain ⟨summary, s', hcollect, hcounts, -, hmemory⟩ := Prober.collect_served hp.valid
    hp.resources (hp.routed.serial (.failEvery n) p.config.url) hs σ
  exact ⟨summary, s', hcollect, reported_of_counts hcounts, hmemory⟩

/-- A batch against a flaky target, under any schedule: how many of its requests are bad depends
on the hits before it alone, and the target counts each of them. Two batches, one after the other
and with workers and schedules of their own, report in sum what one batch reports that is as large
as both, and leave the target the same. -/
theorem flaky_reports {p : Prober Target C} {res : Pool.Resources} (hp : Probes p res status)
    {n h : Nat} {s : Session Target} (hs : s.memory = ⟨.failEvery n, h⟩)
    (hroom : h + p.config.count.toNat < UInt64.size) (σ : Schedule) :
    ∃ whole s', p.collect σ s res = (.value whole, s')
      ∧ Reported n h p.config.count.toNat whole
      ∧ s'.memory = ⟨.failEvery n, h + p.config.count.toNat⟩
      ∧ (UInt64.ofNat s'.memory.hits).toNat = h + p.config.count.toNat
      ∧ ∀ {q r : Prober Target C} {res₁ res₂ : Pool.Resources}, Probes q res₁ status →
        Probes r res₂ status →
        q.config.count.toNat + r.config.count.toNat = p.config.count.toNat →
        ∀ {s₀ : Session Target}, s₀.memory = ⟨.failEvery n, h⟩ → ∀ σ₁ σ₂ : Schedule,
          ∃ first s₁ second s₂, q.collect σ₁ s₀ res₁ = (.value first, s₁)
            ∧ r.collect σ₂ s₁ res₂ = (.value second, s₂)
            ∧ AddUp first second whole ∧ s₂.memory = s'.memory := by
  obtain ⟨whole, s', hcollect, hreported, hmemory⟩ := hp.collect hs σ
  refine ⟨whole, s', hcollect, hreported, hmemory, ?_, ?_⟩
  · rw [hmemory, UInt64.toNat_ofNat', Nat.mod_eq_of_lt hroom]
  · intro q r res₁ res₂ hq hr hcount s₀ hs₀ σ₁ σ₂
    obtain ⟨first, s₁, hcollect₁, hfirst, hs₁⟩ := hq.collect hs₀ σ₁
    obtain ⟨second, s₂, hcollect₂, hsecond, hs₂⟩ := hr.collect hs₁ σ₂
    rw [← hcount] at hreported
    refine ⟨first, s₁, second, s₂, hcollect₁, hcollect₂, hfirst.addUp hsecond hreported, ?_⟩
    rw [hs₂, hmemory, Nat.add_assoc, hcount]

def flakyProber (count workers : UInt64) : Prober Target Nat where
  config := ⟨"127.0.0.1", 8005, count, workers⟩
  transport := transport

/-- Two hits came before, and every third is bad. Of seven more, three are bad; the first three of
them have one of these, the other four have two. -/
theorem flaky_reports_from_two :
    ∃ whole s', (flakyProber 7 2).collect .inTurn (.begin ⟨.failEvery 3, 2⟩) .ample
        = (.value whole, s')
      ∧ whole.succeeded.toNat = 4 ∧ whole.badStatus.toNat = 3 ∧ s'.memory.hits = 9
      ∧ ∃ first s₁ second s₂,
        (flakyProber 3 1).collect .workersFirst (.begin ⟨.failEvery 3, 2⟩) .ample
          = (.value first, s₁)
        ∧ (flakyProber 4 3).collect .inTurn s₁ .ample = (.value second, s₂)
        ∧ AddUp first second whole ∧ s₂.memory.hits = 9 := by
  have hprobes : ∀ count workers : UInt64, (flakyProber count workers).config.violation? = none →
      workers.toNat * Pool.handleSize ≤ Pool.blockLimit →
      Probes (flakyProber count workers) .ample statusFor := fun _ _ hvalid hfits =>
    ⟨hvalid, Pool.Resources.ample_suffice hfits, transport_routed⟩
  have hbegin : (Session.begin (⟨.failEvery 3, 2⟩ : Target)).memory = ⟨.failEvery 3, 2⟩ := rfl
  obtain ⟨whole, s', hcollect, hreported, hmemory, -, hsplit⟩ :=
    flaky_reports (hprobes 7 2 (by decide) (by decide)) hbegin (by decide) .inTurn
  obtain ⟨first, s₁, second, s₂, hfirst, hsecond, hadd, hs₂⟩ :=
    hsplit (hprobes 3 1 (by decide) (by decide)) (hprobes 4 3 (by decide) (by decide)) (by decide)
      hbegin .workersFirst .inTurn
  have hbad : whole.badStatus.toNat = 3 := hreported.badStatus
  have hgood : whole.succeeded.toNat + whole.badStatus.toNat = 7 := hreported.succeeded
  have hhits : s'.memory.hits = 9 := by rw [hmemory]; rfl
  exact ⟨whole, s', hcollect, by omega, hbad, hhits, first, s₁, second, s₂, hfirst, hsecond, hadd,
    by rw [hs₂, hhits]⟩

/-- More workers than there can be handles for. -/
def crowded : Prober Target Nat := flakyProber 1 18446744073709551615

/-- Starts one worker and no more. -/
def stingy : Pool.Resources where
  grants _ := true
  refusal? worker := if worker = 0 then none else some (.code 11)

/-- No system gets a batch done whose workers are too many, and if one of two workers is refused
that is all that is reported. -/
theorem crowded_reports_nothing :
    crowded.config.violation? = none ∧ Routed crowded.transport statusFor
      ∧ (∀ res, ¬ ∃ whole s',
        crowded.collect .inTurn (.begin ⟨.failEvery 0, 0⟩) res = (.value whole, s')
          ∧ Reported 0 0 1 whole)
      ∧ (flakyProber 1 2).config.violation? = none
      ∧ (flakyProber 1 2).collect .inTurn (.begin ⟨.failEvery 0, 0⟩) stingy
        = (.failure (.spawn (.code 11)), .begin ⟨.failEvery 0, 0⟩) := by
  refine ⟨by decide, transport_routed, ?_, by decide, ?_⟩
  · rintro res ⟨whole, s', hcollect, -⟩
    have hmany : Pool.Obstacle res 18446744073709551615 (.abort capacityMessage) :=
      .tooMany (by decide) (by decide)
    rw [Prober.collect_of_hindrance (by decide) (Pool.hindrance?_eq_some_iff.mpr hmany)]
      at hcollect
    cases hcollect
  · have hrefused : Pool.Obstacle stingy 2 (.fault (.spawn (.code 11))) :=
      .refused ⟨by decide, rfl⟩ ⟨1, by decide, rfl, by decide⟩
    rw [Prober.collect_of_hindrance (by decide) (Pool.hindrance?_eq_some_iff.mpr hrefused)]
    rfl

end Target

end Liveness

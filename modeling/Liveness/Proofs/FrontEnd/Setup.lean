import Liveness.Proofs.FrontEnd.Strict

/-!
# Setting up a batch

What keeps a batch from starting is to be reported, not to cut the run short. It is reported with
one exception. Room for the handles of all workers is asked for at once, before the first of them
is started, and no answer to that comes back: more memory than can be addressed ends the run, and
so does memory that the system does not have. So a pool of some size is opened or its fault
reported exactly if there is room for that many handles. The rules of a configuration know no upper
bound on the number of workers, so the same is the exact condition for everything that makes a
batch: once the pool is open, nothing is left that could cut the batch short.
-/

namespace Liveness

namespace Ending

variable {ε φ α : Type}

/-- Comes back with a value or with a reported failure. -/
def Returns : Ending ε α → Prop
  | .value _ => True
  | .failure _ => True
  | .abort _ => False
  | .stalled => False

theorem mapFailure_id (e : Ending ε α) : e.mapFailure id = e := by
  cases e <;> rfl

end Ending

/-! ## A pool -/

namespace Pool

variable {J W : Type} {load : Workload J W} {res : Resources} {size : Nat} {world : W}

theorem liveCount_ofSize (size : Nat) (world : W) :
    (ofSize size [] world : Pool J W).liveCount = size := by
  rw [liveCount, ofSize, List.countP_replicate]
  exact if_pos rfl

theorem Hindrance.ending_inj {α : Type} {d d' : Hindrance}
    (h : (d.ending : Ending Fault α) = d'.ending) : d = d' := by
  cases d <;> cases d' <;> cases h <;> rfl

/-- Of what keeps a pool from opening, the faults are reported. They need no room, or have it. -/
theorem Obstacle.returns_iff {φ α : Type} {d : Hindrance} (h : Obstacle res size d)
    (report : Fault → φ) :
    ((d.ending : Ending Fault α).mapFailure report).Returns ↔ size = 0 ∨ res.HasRoom size := by
  cases h with
  | noWorkers hzero => exact iff_of_true trivial (.inl hzero)
  | tooMany hpos hmany =>
      refine iff_of_false id ?_
      rintro (hzero | hroom)
      · exact Nat.ne_of_gt hpos hzero
      · exact Nat.not_le.mpr hmany hroom.fits
  | noRoom hpos _ hdenied =>
      refine iff_of_false id ?_
      rintro (hzero | hroom)
      · exact Nat.ne_of_gt hpos hzero
      · rw [hroom.granted] at hdenied
        cases hdenied
  | refused hroom _ => exact iff_of_true trivial (.inr hroom)

/-- What comes of opening a pool: one with all its workers, waiting, or what is in the way of it. -/
structure Opening (res : Resources) (size : Nat) (e : Ending Fault (Pool J W)) : Prop where
  returns_iff : e.Returns ↔ size = 0 ∨ res.HasRoom size
  opened_iff : (∃ pool, e = .value pool) ↔ 0 < size ∧ res.Suffice size
  failed_iff : ∀ fault, e = .failure fault ↔ Obstacle res size (.fault fault)
  aborted_iff : ∀ message, e = .abort message ↔ Obstacle res size (.abort message)
  opened : ∀ pool, e = .value pool →
    pool.size = size ∧ pool.liveCount = size ∧ pool.isOpen = true ∧ pool.queue = []

theorem opening_create : Opening res size (create load size world res) := by
  cases hd : hindrance? res size with
  | none =>
      obtain ⟨hpos, hres⟩ := hindrance?_eq_none_iff.mp hd
      have hnone : ∀ d, ¬ Obstacle res size d := by
        intro d h
        rw [hindrance?_eq_some_iff.mpr h] at hd
        cases hd
      rw [create_of_suffice hpos hres]
      exact {
        returns_iff := iff_of_true trivial (.inr hres.room)
        opened_iff := iff_of_true ⟨_, rfl⟩ ⟨hpos, hres⟩
        failed_iff := fun _ => iff_of_false (by rintro ⟨⟩) (hnone _)
        aborted_iff := fun _ => iff_of_false (by rintro ⟨⟩) (hnone _)
        opened := by
          rintro _ ⟨⟩
          exact ⟨List.length_replicate, liveCount_ofSize size _, rfl, rfl⟩ }
  | some d =>
      have hobstacle := hindrance?_eq_some_iff.mp hd
      have honly : ∀ d', (d.ending : Ending Fault (Pool J W)) = d'.ending
          ↔ Obstacle res size d' := by
        intro d'
        rw [← hindrance?_eq_some_iff, hd]
        exact ⟨fun h => congrArg some (Hindrance.ending_inj h), fun h =>
          congrArg Hindrance.ending (Option.some.inj h)⟩
      have hreturns := hobstacle.returns_iff (α := Pool J W) id
      rw [Ending.mapFailure_id] at hreturns
      rw [create_of_hindrance hd]
      exact {
        returns_iff := hreturns
        opened_iff := by
          refine iff_of_false ?_ fun h => ?_
          · rintro ⟨pool, hpool⟩
            exact d.ending_ne_value pool hpool
          · rw [hindrance?_eq_none_iff.mpr h] at hd
            cases hd
        failed_iff := fun fault => honly (.fault fault)
        aborted_iff := fun message => honly (.abort message)
        opened := fun pool hpool => absurd hpool (d.ending_ne_value pool) }

end Pool

/-! ## A batch -/

namespace FrontEnd

variable {S C : Type} {p : Prober S C} {res : Pool.Resources} {size : Nat}

/-- How a computation ends that opens a pool of a given size first, when `report` is what it makes
of a fault. -/
structure SetUp {φ α : Type} (res : Pool.Resources) (size : Nat) (report : Fault → φ)
    (e : Ending φ α) : Prop where
  returns_iff : e.Returns ↔ res.HasRoom size
  hindered : ∀ d, Pool.Obstacle res size d → e = d.ending.mapFailure report

theorem setUp_of_cases {φ α : Type} {report : Fault → φ} {e : Ending φ α} (hpos : 0 < size)
    (hhindered : ∀ d, Pool.hindrance? res size = some d → e = d.ending.mapFailure report)
    (hreturns : res.Suffice size → e.Returns) : SetUp res size report e := by
  refine ⟨?_, fun d hd => hhindered d (Pool.hindrance?_eq_some_iff.mpr hd)⟩
  cases hd : Pool.hindrance? res size with
  | none =>
      obtain ⟨-, hres⟩ := Pool.hindrance?_eq_none_iff.mp hd
      exact iff_of_true (hreturns hres) hres.room
  | some d =>
      rw [hhindered d hd, (Pool.hindrance?_eq_some_iff.mp hd).returns_iff]
      exact or_iff_right (Nat.ne_of_gt hpos)

theorem verdict_returns (config : Config) (strict : Bool) {os : List Outcome} {summary : Summary}
    (h : summary.Counts os) (hlt : os.length < UInt64.size) :
    (verdict config strict summary).Returns := by
  obtain ⟨b, hb, -⟩ := h.allSucceeded? hlt
  obtain ⟨n, hn, -⟩ := h.failures? hlt
  cases strict with
  | false => trivial
  | true => cases b <;> simp [verdict, hb, hn, Ending.Returns]

theorem printLine_returns {line : String} {session : Session S} {sink : Sink}
    {next : Sink → Run S} (h : ∀ sink', (next sink').ending.Returns) :
    (printLine line session sink next).ending.Returns := by
  unfold printLine
  split
  · exact h _
  · trivial

/-- Everything that makes a batch with some configuration. What only makes it is through when the
pool could be opened. -/
structure Starts (res : Pool.Resources) (p : Prober S C) : Prop where
  batch : ∀ {K : Type} (receiver : Receiver K) σ s memory,
    SetUp res p.config.concurrency.toNat id (p.batch receiver σ s memory res).1
  collect : ∀ σ s, SetUp res p.config.concurrency.toNat id (p.collect σ s res).1
  discard : ∀ σ s, SetUp res p.config.concurrency.toNat id (p.discard σ s res).1
  run : ∀ strict json σ session sink,
    SetUp res p.config.concurrency.toNat (startFailure p.config)
      (FrontEnd.batch p strict json σ session sink res).ending
  through : res.Suffice p.config.concurrency.toNat →
    ∀ {K : Type} (receiver : Receiver K) σ s memory,
      (p.batch receiver σ s memory res).1 = .value ()

theorem batch_through (hvalid : p.config.violation? = none)
    (hres : res.Suffice p.config.concurrency.toNat) {K : Type} (receiver : Receiver K)
    (σ : Schedule) (s : Session S) (memory : K) :
    (p.batch receiver σ s memory res).1 = .value () := by
  obtain ⟨es, answer, s', memory', hbatch, -⟩ :=
    Prober.batch_accounted hvalid hres receiver σ s memory
  rw [hbatch]

theorem batch_setUp (hvalid : p.config.violation? = none) {K : Type} (receiver : Receiver K)
    (σ : Schedule) (s : Session S) (memory : K) :
    SetUp res p.config.concurrency.toNat id (p.batch receiver σ s memory res).1 := by
  refine setUp_of_cases (Prober.pos_of_valid hvalid).2 (fun d hd => ?_) fun hres => ?_
  · rw [Prober.batch_of_hindrance hvalid hd, Ending.mapFailure_id]
  · rw [batch_through hvalid hres]
    trivial

theorem collect_setUp (hvalid : p.config.violation? = none) (σ : Schedule) (s : Session S) :
    SetUp res p.config.concurrency.toNat id (p.collect σ s res).1 := by
  refine setUp_of_cases (Prober.pos_of_valid hvalid).2 (fun d hd => ?_) fun hres => ?_
  · rw [Prober.collect_of_hindrance hvalid hd, Ending.mapFailure_id]
  · obtain ⟨es, answer, s', kept, summary, hcollect, -⟩ := Prober.collect_accounted hvalid hres σ s
    rw [hcollect]
    trivial

theorem run_returns (hvalid : p.config.violation? = none)
    (hres : res.Suffice p.config.concurrency.toNat) (strict json : Bool) (σ : Schedule)
    (session : Session S) (sink : Sink) :
    (batch p strict json σ session sink res).ending.Returns := by
  obtain ⟨os, summary, line, s', hcounts, hlt, hrun⟩ :=
    batch_line hvalid hres strict json σ session sink
  rw [hrun]
  exact printLine_returns fun _ => verdict_returns p.config strict hcounts hlt

theorem run_setUp (hvalid : p.config.violation? = none) (strict json : Bool) (σ : Schedule)
    (session : Session S) (sink : Sink) :
    SetUp res p.config.concurrency.toNat (startFailure p.config)
      (batch p strict json σ session sink res).ending := by
  refine setUp_of_cases (Prober.pos_of_valid hvalid).2 (fun d hd => ?_) fun hres =>
    run_returns hvalid hres strict json σ session sink
  rw [batch_of_hindrance hvalid hd]

/-- On every system a pool of any size is opened with all its workers or its fault reported, and a
batch with any accepted configuration ends or its fault is reported, exactly if there is room for
the handles of all workers; if not, the run is cut short. -/
theorem setup_reported_iff {J W : Type} (res : Pool.Resources) (load : Pool.Workload J W)
    (size : Nat) (world : W) (hvalid : p.config.violation? = none) :
    Pool.Opening res size (Pool.create load size world res) ∧ Starts res p where
  left := Pool.opening_create
  right := {
    batch := batch_setUp hvalid
    collect := collect_setUp hvalid
    discard := fun σ s => batch_setUp hvalid Prober.ignoring σ s ()
    run := run_setUp hvalid
    through := batch_through hvalid }

/-- One request, for which so many workers are to be started. -/
def crowd (workers : UInt64) : Prober Nat (Nat × String) where
  config := ⟨"localhost", 8005, 1, workers⟩
  transport := Script.transport [.status 200]

/-- Has a gigabyte to give, and starts two workers. -/
def modest : Pool.Resources where
  grants bytes := bytes ≤ 1073741824
  refusal? worker := if worker < 2 then none else some (.code 11)

/-- As many workers as a number can name are too many for every system. Fewer are too many for the
memory of a modest one, and of three it refuses the last. Two it can start. -/
theorem crowd_cut_short :
    (crowd 18446744073709551615).config.violation? = none
      ∧ (∀ res σ, ((crowd 18446744073709551615).collect σ (.begin 0) res).1
        = .abort "capacity overflow")
      ∧ (∀ σ, ((crowd 100000000000000000).discard σ (.begin 0) modest).1
        = .abort "memory allocation of 2400000000000000000 bytes failed")
      ∧ (∀ strict json σ, (batch (crowd 3) strict json σ (.begin 0) .endless modest).ending
        = .failure ⟨"starting probes against http://localhost:8005/",
          ["failed to spawn worker thread: Resource temporarily unavailable (os error 11)",
            "Resource temporarily unavailable (os error 11)"]⟩)
      ∧ ∃ pool, Pool.create ((crowd 2).load Prober.ignoring) 2 ⟨.begin 0, ()⟩ modest = .value pool
        ∧ pool.liveCount = 2 := by
  have hsetup := fun res workers (hvalid : (crowd workers).config.violation? = none) =>
    setup_reported_iff res ((crowd 2).load Prober.ignoring) 2 ⟨.begin 0, ()⟩ hvalid
  have hroom : modest.HasRoom 3 := ⟨by decide, by decide⟩
  refine ⟨by decide, fun res σ => ?_, fun σ => ?_, fun strict json σ => ?_, ?_⟩
  · obtain ⟨-, hstarts⟩ := hsetup res 18446744073709551615 (by decide)
    exact (hstarts.collect σ _).hindered _ (.tooMany (by decide) (by decide))
  · obtain ⟨-, hstarts⟩ := hsetup modest 100000000000000000 (by decide)
    refine ((hstarts.discard σ _).hindered _ (.noRoom ?_ ?_ ?_)).trans ?_ <;> decide +kernel
  · obtain ⟨-, hstarts⟩ := hsetup modest 3 (by decide)
    have hrefused : modest.Refuses 3 (.code 11) := ⟨2, by decide, rfl, by decide⟩
    refine ((hstarts.run strict json σ _ _).hindered _ (.refused hroom hrefused)).trans ?_
    decide +kernel
  · obtain ⟨hopening, -⟩ := hsetup modest 2 (by decide)
    obtain ⟨pool, hpool⟩ := hopening.opened_iff.mpr
      ⟨by decide, ⟨by decide, by decide⟩, by decide⟩
    exact ⟨pool, hpool, (hopening.opened pool hpool).2.1⟩

end FrontEnd

end Liveness

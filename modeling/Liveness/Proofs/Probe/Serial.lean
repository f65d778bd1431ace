import Liveness.Proofs.Probe.Batch

/-!
# Transports that answer by number

A transport may give its n-th call a fixed answer, whoever makes that call. Which request of a
batch makes which call is up to the schedule, and so is the order in which the answers come
back. But a batch takes its answers in one block: with `k` calls sent before it, the answers to
its `count` requests are those with the numbers from `k` to `k + count - 1`, each once, and the
next call to be sent is number `k + count`.

The history of a batch replays on the transport. The i-th request that is sent in it makes call
`k + i`, and the history tells which request that is; so each call under way has its number, one
event after the other. At the end the requests, in the order in which they were sent, have the
answers of the block in order.
-/

namespace Liveness

open Event

variable {S C K : Type} {answer : Nat → Answer} {after : S → Nat → Prop} {nth : C → Nat → Prop}
  {url : String}

namespace Transport

/-- The transport answers its calls to `url` by number, in the order in which they are sent:
`after s n` says that `n` calls had been sent when its memory was `s`, and `nth c n` that `c`
is the call with number `n`, counted from zero. -/
structure Serial (t : Transport S C) (url : String) (answer : Nat → Answer)
    (after : S → Nat → Prop) (nth : C → Nat → Prop) : Prop where
  send : ∀ {s n}, after s n → nth (t.send url s).1 n ∧ after (t.send url s).2 (n + 1)
  receive : ∀ {c s m n}, after s m → nth c n →
    (t.receive c s).1 = answer n ∧ after (t.receive c s).2 m

theorem numbered_serial (answer : Nat → String → Answer) (url : String) :
    (numbered answer).Serial url (fun n => answer n url) (fun s n => s = n)
      fun c n => c = (n, url) where
  send := by
    rintro s n rfl
    exact ⟨rfl, rfl⟩
  receive := by
    rintro c s m n rfl rfl
    exact ⟨rfl, rfl⟩

/-- The answers to `count` calls from call number `k` on. -/
def block (answer : Nat → Answer) (k count : Nat) : List Answer :=
  (List.range count).map fun i => answer (k + i)

theorem block_succ (answer : Nat → Answer) (k count : Nat) :
    block answer k (count + 1) = answer k :: block answer (k + 1) count := by
  simp only [block, List.range_succ_eq_map, List.map_cons, List.map_map, Nat.add_zero]
  congr 1
  refine List.map_congr_left fun i _ => ?_
  simp only [Function.comp_apply]
  congr 1
  omega

end Transport

/-- What a single request finds by the answer to its call. -/
def Answer.ending : Answer → Ending Fault Response
  | .panicked message => .abort message
  | .returned (.error fault) => .failure fault
  | .returned (.ok response) =>
    if response.isGood then .value response else .failure (.badStatus response.status)

/-! ## Who makes which call -/

namespace Event

/-- The requests that were sent, in order. -/
def callers (es : List Event) : List Nat :=
  es.filterMap fun
    | .requested seq _ => some seq
    | _ => none

@[simp] theorem callers_append (es fs : List Event) :
    callers (es ++ fs) = callers es ++ callers fs :=
  List.filterMap_append

theorem callers_getElem?_append {es : List Event} {i seq : Nat}
    (h : (callers es)[i]? = some seq) (fs : List Event) :
    (callers (es ++ fs))[i]? = some seq := by
  rw [callers_append, List.getElem?_append_left (List.getElem?_eq_some_iff.mp h).1, h]

end Event

/-- After the events `es`, with `k` calls sent before them: the i-th request that was sent in them
made call `k + i`, and what it was answered is the answer with that number. -/
structure Numbered (answer : Nat → Answer) (after : S → Nat → Prop) (nth : C → Nat → Prop) (k : Nat)
    (es : List Event) (m : S) (calls : Calls C) : Prop where
  sent : after m (k + (callers es).length)
  call : ∀ seq call, calls seq = some call →
    ∃ i : Nat, (callers es)[i]? = some seq ∧ nth call (k + i)
  answered : ∀ seq a, .answered seq a ∈ es →
    ∃ i : Nat, (callers es)[i]? = some seq ∧ a = answer (k + i)

namespace Numbered

variable {t : Transport S C} {k : Nat} {es fs : List Event} {m m' : S} {calls calls' : Calls C}
  {e : Event}

/-- Old answers keep their numbers, so of an event only its own answer is to be numbered. -/
theorem answered_append (h : Numbered answer after nth k es m calls)
    (he : ∀ seq a, e = .answered seq a →
      ∃ i : Nat, (callers es)[i]? = some seq ∧ a = answer (k + i)) :
    ∀ seq a, .answered seq a ∈ es ++ [e] →
      ∃ i : Nat, (callers (es ++ [e]))[i]? = some seq ∧ a = answer (k + i) := by
  intro seq a hmem
  obtain ⟨i, hi, ha⟩ : ∃ i : Nat, (callers es)[i]? = some seq ∧ a = answer (k + i) := by
    rcases List.mem_append.mp hmem with hmem | hmem
    · exact h.answered seq a hmem
    · exact he seq a (List.mem_singleton.mp hmem).symm
  exact ⟨i, callers_getElem?_append hi [e], ha⟩

/-- An event with which nothing is sent or answered changes nothing. -/
theorem idle (h : Numbered answer after nth k es m calls) (hcallers : callers [e] = [])
    (hanswer : ∀ seq a, e ≠ .answered seq a) : Numbered answer after nth k (es ++ [e]) m calls where
  sent := by
    rw [callers_append, hcallers, List.append_nil]
    exact h.sent
  call seq call hcall := by
    obtain ⟨i, hi, hnth⟩ := h.call seq call hcall
    exact ⟨i, callers_getElem?_append hi [e], hnth⟩
  answered := h.answered_append fun seq a he => absurd he (hanswer seq a)

theorem send (ht : t.Serial url answer after nth) (h : Numbered answer after nth k es m calls)
    (seq : Nat) : Numbered answer after nth k (es ++ [.requested seq url]) (t.send url m).2
      (Function.update calls seq (some (t.send url m).1)) := by
  obtain ⟨hnth, hsent⟩ := ht.send h.sent
  have hcallers : callers (es ++ [.requested seq url]) = callers es ++ [seq] := callers_append ..
  refine ⟨?_, fun seq' call hcall => ?_, h.answered_append (by rintro _ _ ⟨⟩)⟩
  · rw [hcallers, List.length_append]
    exact hsent
  · by_cases hseq : seq' = seq
    · subst hseq
      rw [Function.update_self] at hcall
      obtain rfl := Option.some.inj hcall
      exact ⟨_, hcallers ▸ List.getElem?_concat_length, hnth⟩
    · rw [Function.update_of_ne hseq] at hcall
      obtain ⟨i, hi, hnth⟩ := h.call seq' call hcall
      exact ⟨i, callers_getElem?_append hi _, hnth⟩

theorem receive (ht : t.Serial url answer after nth) (h : Numbered answer after nth k es m calls)
    {seq : Nat} {call : C} (hcall : calls seq = some call) :
    Numbered answer after nth k (es ++ [.answered seq (t.receive call m).1]) (t.receive call m).2
      (Function.update calls seq none) := by
  obtain ⟨i, hi, hnth⟩ := h.call seq call hcall
  obtain ⟨hanswer, hsent⟩ := ht.receive h.sent hnth
  have hcallers : callers (es ++ [.answered seq (t.receive call m).1]) = callers es := by
    rw [callers_append]
    exact List.append_nil _
  refine ⟨hcallers ▸ hsent, fun seq' call' hcall' => ?_, h.answered_append ?_⟩
  · rw [hcallers]
    by_cases hseq : seq' = seq
    · subst hseq
      rw [Function.update_self] at hcall'
      cases hcall'
    · rw [Function.update_of_ne hseq] at hcall'
      exact h.call seq' call' hcall'
  · rintro _ _ ⟨⟩
    exact ⟨i, hi, hanswer⟩

/-- An event keeps the numbers of the calls, if all calls go to the one url. -/
theorem play (ht : t.Serial url answer after nth) (h : Numbered answer after nth k es m calls)
    (he : t.Plays m calls e m' calls') (hurl : ∀ seq u, e = .requested seq u → u = url) :
    Numbered answer after nth k (es ++ [e]) m' calls' := by
  cases he with
  | requested seq u =>
      obtain rfl := hurl seq u rfl
      exact h.send ht seq
  | answered hcall ha =>
      subst ha
      exact h.receive ht hcall
  | noted => exact h.idle rfl (by rintro _ _ ⟨⟩)
  | delivered => exact h.idle rfl (by rintro _ _ ⟨⟩)

theorem replay (ht : t.Serial url answer after nth) (hr : t.Replays m calls fs m' calls')
    (hurl : ∀ seq u, .requested seq u ∈ fs → u = url)
    (h : Numbered answer after nth k es m calls) :
    Numbered answer after nth k (es ++ fs) m' calls' := by
  induction hr generalizing es with
  | nil =>
      rw [List.append_nil]
      exact h
  | @cons _ _ _ _ _ _ e fs he _ ih =>
      have hnext : Numbered answer after nth k (es ++ [e]) _ _ :=
        h.play ht he fun seq u heq => hurl seq u (heq ▸ List.mem_cons_self ..)
      rw [List.append_cons]
      exact ih (fun seq u hmem => hurl seq u (List.mem_cons_of_mem _ hmem)) hnext

end Numbered

namespace Batch

variable {k : Nat}

/-! ## The block of a batch -/

variable {count : Nat} {given : Nat → Answer} {es : List Event}

/-- Each request of the batch is sent once. -/
theorem Exact.callers_perm (h : Exact url count given es) :
    (callers es).Perm (List.range count) := by
  rw [← List.flatMap_singleton' (List.range count)]
  refine h.filterMap_perm _ ?_ fun seq => ?_
  · rintro (_ | _ | _ | _) hseq
    · cases hseq
    · rfl
    · rfl
    · rfl
  · cases given seq <;> rfl

/-- In the order in which they were sent, the requests have the answers of the block. -/
theorem Exact.callers_map (h : Exact url count given es)
    (hnum : ∀ seq < count, ∃ i : Nat, (callers es)[i]? = some seq ∧ given seq = answer (k + i)) :
    (callers es).map given = Transport.block answer k count := by
  have hperm := h.callers_perm
  have hnodup : (callers es).Nodup := hperm.nodup_iff.mpr List.nodup_range
  have hlength : (callers es).length = count := by rw [hperm.length_eq, List.length_range]
  refine List.ext_getElem (by simp [Transport.block, hlength]) ?_
  intro i hi _
  rw [List.length_map] at hi
  have hlt : (callers es)[i] < count :=
    List.mem_range.mp (hperm.mem_iff.mp (List.getElem_mem hi))
  obtain ⟨j, hj, hgiven⟩ := hnum _ hlt
  obtain ⟨hjlt, hj⟩ := List.getElem?_eq_some_iff.mp hj
  obtain rfl : j = i := (hnodup.getElem_inj_iff).mp hj
  simp only [Transport.block, List.getElem_map, List.getElem_range]
  exact hgiven

/-- The answers of the batch are those of the block. -/
theorem Exact.answers_block (h : Exact url count given es)
    (hnum : ∀ seq < count, ∃ i : Nat, (callers es)[i]? = some seq ∧ given seq = answer (k + i)) :
    (Event.answers es).Perm (Transport.block answer k count) := by
  rw [← h.callers_map hnum]
  exact h.answers.trans (h.callers_perm.map given).symm

end Batch

namespace Prober

variable {p : Prober S C} {receiver : Receiver K} {res : Pool.Resources} {k : Nat}

/-- The outcomes of `count` calls from call number `k` on. -/
def outcomes (answer : Nat → Answer) (k count : Nat) : List Outcome :=
  (Transport.block answer k count).filterMap Answer.outcome?

theorem outcomes_returned (result : Nat → Except Fault Response) (k count : Nat) :
    outcomes (fun n => .returned (result n)) k count
      = (List.range count).map fun i => Outcome.ofResult (result (k + i)) := by
  rw [outcomes, Transport.block, List.filterMap_map, ← List.filterMap_eq_map]
  rfl

/-- A batch that has taken the block of answers from call number `k` on. -/
structure Served (p : Prober S C) (answer : Nat → Answer) (after : S → Nat → Prop) (k : Nat)
    (memory : S) (es : List Event) : Prop where
  answers : (Event.answers es).Perm (Transport.block answer k p.config.count.toNat)
  calls : after memory (k + p.config.count.toNat)

theorem Accounted.served {before world : Batch.Shared S K} {given : Nat → Answer}
    {es : List Event} (h : p.Accounted receiver before world es given)
    (ht : p.transport.Serial p.config.url answer after nth) (hs : after before.session.memory k) :
    p.Served answer after k world.session.memory es := by
  have hurl : ∀ seq u, .requested seq u ∈ es → u = p.config.url := by
    intro seq u hmem
    have hu : u ∈ Event.urls es := List.mem_filterMap.mpr ⟨_, hmem, rfl⟩
    rw [h.exact.urls] at hu
    exact List.eq_of_mem_replicate hu
  have hstart : Numbered answer after nth k [] before.session.memory fun _ => none :=
    ⟨hs, by rintro _ _ ⟨⟩, by rintro _ _ ⟨⟩⟩
  have hnum := hstart.replay ht h.replay hurl
  rw [List.nil_append] at hnum
  constructor
  · refine h.exact.answers_block fun seq hlt => hnum.answered seq _ ?_
    have hmem : Event.answered seq (given seq) ∈ about seq es := by
      rw [h.exact.course seq hlt]
      simp [Batch.course]
    exact (List.mem_filter.mp hmem).1
  · have hsent := hnum.sent
    rw [h.exact.callers_perm.length_eq, List.length_range] at hsent
    exact hsent

/-- Under every schedule and with any number of workers, a batch takes its answers in one
block. -/
theorem batch_served (hvalid : p.config.violation? = none)
    (hres : res.Suffice p.config.concurrency.toNat)
    (ht : p.transport.Serial p.config.url answer after nth) {s : Session S}
    (hs : after s.memory k) (receiver : Receiver K) (σ : Schedule) (memory : K) :
    ∃ es given s' memory', p.batch receiver σ s memory res = (.value (), s', memory')
      ∧ p.Accounted receiver ⟨s, memory⟩ ⟨s', memory'⟩ es given
      ∧ p.Served answer after k s'.memory es := by
  obtain ⟨es, given, s', memory', hbatch, hacc⟩ :=
    batch_accounted hvalid hres receiver σ s memory
  exact ⟨es, given, s', memory', hbatch, hacc, hacc.served ht hs⟩

/-- What any receiver sees of a batch, and the calls that the batch makes. -/
theorem batch_shown (hvalid : p.config.violation? = none)
    (hres : res.Suffice p.config.concurrency.toNat)
    (ht : p.transport.Serial p.config.url answer after nth) {s : Session S}
    (hs : after s.memory k) (receiver : Receiver K) (σ : Schedule) (memory : K) :
    ∃ es given s' memory', p.batch receiver σ s memory res = (.value (), s', memory')
      ∧ p.Accounted receiver ⟨s, memory⟩ ⟨s', memory'⟩ es given
      ∧ (Event.deliveries es).Perm (outcomes answer k p.config.count.toNat)
      ∧ s'.requests = s.requests + p.config.count.toNat
      ∧ after s'.memory (k + p.config.count.toNat) := by
  obtain ⟨es, given, s', memory', hbatch, hacc, hserved⟩ :=
    batch_served hvalid hres ht hs receiver σ memory
  refine ⟨es, given, s', memory', hbatch, hacc, ?_, hacc.requests, hserved.calls⟩
  exact hacc.exact.deliveries.trans (hserved.answers.filterMap _)

theorem collect_served (hvalid : p.config.violation? = none)
    (hres : res.Suffice p.config.concurrency.toNat)
    (ht : p.transport.Serial p.config.url answer after nth) {s : Session S}
    (hs : after s.memory k) (σ : Schedule) :
    ∃ summary s', p.collect σ s res = (.value summary, s')
      ∧ summary.Counts (outcomes answer k p.config.count.toNat)
      ∧ s'.requests = s.requests + p.config.count.toNat
      ∧ after s'.memory (k + p.config.count.toNat) := by
  obtain ⟨es, given, s', kept, hbatch, hacc, hperm, hrequests, hafter⟩ :=
    batch_shown hvalid hres ht hs keeping σ []
  obtain ⟨summary, hcollect, -, hcounts⟩ := hacc.collect hbatch
  exact ⟨summary, s', hcollect, hcounts.perm hperm, hrequests, hafter⟩

/-! ## A single request -/

theorem once_served (hvalid : p.config.violation? = none)
    (ht : p.transport.Serial p.config.url answer after nth) {s : Session S}
    (hs : after s.memory k) :
    ∃ es s', p.once s = ((answer k).ending, s') ∧ s'.history = s.history ++ es
      ∧ Event.urls es = [p.config.url] ∧ Event.deliveries es = [] ∧ after s'.memory (k + 1) := by
  obtain ⟨hnth, hsent⟩ := ht.send hs
  obtain ⟨hanswer, hreceived⟩ := ht.receive hsent hnth
  have hrejection : p.rejection? = none := by rw [rejection?, hvalid, Option.map_none]
  cases hsend : p.transport.send p.config.url s.memory with
  | mk call m =>
      cases hreceive : p.transport.receive call m with
      | mk a m' =>
          simp only [hsend, hreceive] at hanswer hreceived
          subst hanswer
          simp only [once, hrejection, Session.send, hsend, Session.receive, Session.memory_add,
            hreceive]
          rcases hk : answer k with (fault | response) | message
          · refine ⟨[.requested 0 p.config.url, .answered 0 (.returned (.error fault))], _, rfl,
              ?_, rfl, rfl, hreceived⟩
            simp [Session.history, Session.add]
          · refine ⟨[.requested 0 p.config.url, .answered 0 (.returned (.ok response)),
              .noted (.answered p.config.url response.status)], _,
              (apply_ite (Prod.mk · _) _ _ _).symm, ?_, rfl, rfl, hreceived⟩
            simp [Session.history, Session.add, Session.note]
          · refine ⟨[.requested 0 p.config.url, .answered 0 (.panicked message)], _, rfl,
              ?_, rfl, rfl, hreceived⟩
            simp [Session.history, Session.add]

end Prober

end Liveness

import Liveness.Probe.Batch
import Liveness.Proofs.Pool.Custody
import Liveness.Proofs.Probe.Replay

/-!
# The course of one request

In a history the events of many requests are mixed. Those about one request are its course:
it is made, it is answered, and unless its call panicked its outcome is logged and handed
over. Each stage of a request adds exactly one event, about that request. At any moment the
history since the start replays on the transport, with one call under way for each request that is
sent and not answered, and the receiver has been fed the outcomes handed over so far, in their
order.
-/

namespace Liveness

/-- The request that a notice is about. -/
def Notice.seq? : Notice → Option Nat
  | .goodAnswer seq _ => some seq
  | .badAnswer seq _ => some seq
  | .noAnswer seq _ => some seq
  | _ => none

/-- What an answer is handed over as; a panic is not. -/
def Answer.outcome? : Answer → Option Outcome
  | .returned result => some (.ofResult result)
  | .panicked _ => none

/-- Whether a call was answered, and with the good status. -/
def Answer.isGood : Answer → Bool
  | .returned (.ok response) => response.isGood
  | _ => false

def Answer.isPanicked : Answer → Bool
  | .returned _ => false
  | .panicked _ => true

namespace Event

/-- The request that an event is about. -/
def seq? : Event → Option Nat
  | .requested seq _ => some seq
  | .answered seq _ => some seq
  | .noted notice => notice.seq?
  | .delivered seq _ => some seq

/-- The events about one request. -/
def about (seq : Nat) (es : List Event) : List Event :=
  es.filter fun e => e.seq? = some seq

@[simp] theorem about_nil (seq : Nat) : about seq [] = [] := rfl

theorem about_cons (seq : Nat) (e : Event) (es : List Event) :
    about seq (e :: es) = if e.seq? = some seq then e :: about seq es else about seq es := by
  simp only [about, List.filter_cons, decide_eq_true_eq]

@[simp] theorem about_append (seq : Nat) (es fs : List Event) :
    about seq (es ++ fs) = about seq es ++ about seq fs :=
  List.filter_append ..

theorem about_singleton_self {seq : Nat} {e : Event} (h : e.seq? = some seq) :
    about seq [e] = [e] := by
  rw [about_cons, if_pos h]
  rfl

theorem about_singleton_of_ne {seq : Nat} {e : Event} (h : e.seq? ≠ some seq) :
    about seq [e] = [] := by
  rw [about_cons, if_neg h]
  rfl

@[simp] theorem deliveries_append (es fs : List Event) :
    deliveries (es ++ fs) = deliveries es ++ deliveries fs :=
  List.filterMap_append

end Event

open Event

/-- The memory that a receiver is left with. -/
def Reception.memory {K : Type} : Reception K → K
  | .taken memory => memory
  | .panicked memory => memory

/-- What a receiver remembers after some outcomes. -/
def Receiver.feed {K : Type} (receiver : Receiver K) (memory : K) (os : List Outcome) : K :=
  os.foldl (fun m o => (receiver o m).memory) memory

theorem Receiver.feed_append {K : Type} (receiver : Receiver K) (memory : K)
    (os os' : List Outcome) :
    receiver.feed memory (os ++ os') = receiver.feed (receiver.feed memory os) os' :=
  List.foldl_append

namespace Batch

variable {S C K : Type} {t : Transport S C} {url : String} {receiver : Receiver K}

/-! ## Stages -/

theorem seq?_outcomeNotice (seq : Nat) (o : Outcome) :
    (outcomeNotice seq o).seq? = some seq := by
  cases o <;> rfl

theorem seq?_ofPool (event : Pool.Event) : (Notice.ofPool event).seq? = none := by
  cases event <;> rfl

/-- What one stage of a request adds to the history, what is left of the request, and what a
transport with memory `m` remembers then. -/
inductive Advance (t : Transport S C) (url : String) (m : S) :
    Job C → Event → Pool.Turn (Job C) → S → Prop where
  | send {seq : Nat} :
      Advance t url m ⟨seq, .ready⟩ (.requested seq url)
        (.more ⟨seq, .sent (t.send url m).1⟩) (t.send url m).2
  | answer {seq : Nat} {call : C} {result : Except Fault Response}
      (ha : (t.receive call m).1 = .returned result) :
      Advance t url m ⟨seq, .sent call⟩ (.answered seq (.returned result))
        (.more ⟨seq, .judged (.ofResult result)⟩) (t.receive call m).2
  | panic {seq : Nat} {call : C} {message : String}
      (ha : (t.receive call m).1 = .panicked message) :
      Advance t url m ⟨seq, .sent call⟩ (.answered seq (.panicked message)) .panicked
        (t.receive call m).2
  | log {seq : Nat} {o : Outcome} :
      Advance t url m ⟨seq, .judged o⟩ (.noted (outcomeNotice seq o)) (.more ⟨seq, .logged o⟩) m
  | deliver {seq : Nat} {o : Outcome} :
      Advance t url m ⟨seq, .logged o⟩ (.delivered seq o) .finished m
  /-- the receiver panics on the outcome -/
  | drop {seq : Nat} {o : Outcome} :
      Advance t url m ⟨seq, .logged o⟩ (.delivered seq o) .panicked m

theorem Advance.seq?_eq {m m' : S} {job : Job C} {e : Event} {next : Pool.Turn (Job C)}
    (h : Advance t url m job e next m') : e.seq? = some job.seq := by
  cases h with
  | log => exact seq?_outcomeNotice _ _
  | _ => rfl

/-- No stage of a request ends its worker. -/
theorem Advance.ne_fatal {m m' : S} {job : Job C} {e : Event} {next : Pool.Turn (Job C)}
    (h : Advance t url m job e next m') : next ≠ .fatal := by
  cases h <;> rintro ⟨⟩

theorem advance_of_load {i : Nat} {job : Job C} {next : Pool.Turn (Job C)}
    {w w' : Shared S K} (h : (load t url receiver).turn i job w = some (next, w')) :
    ∃ e, Advance t url w.session.memory job e next w'.session.memory
      ∧ w'.session.history = w.session.history ++ [e]
      ∧ w'.memory = receiver.feed w.memory (deliveries [e]) := by
  obtain rfl : (turn t url receiver job w).1 = next := by rw [Option.some.inj h]
  obtain rfl : (turn t url receiver job w).2 = w' := by rw [Option.some.inj h]
  obtain ⟨seq, stage⟩ := job
  cases stage with
  | ready => exact ⟨_, .send, Session.history_add .., rfl⟩
  | sent call =>
      cases hr : t.receive call w.session.memory with
      | mk answer memory =>
          have ha : (t.receive call w.session.memory).1 = answer := by rw [hr]
          have hm : (t.receive call w.session.memory).2 = memory := by rw [hr]
          cases answer with
          | returned result =>
              simp only [turn, Session.receive, hr]
              exact ⟨_, hm ▸ .answer ha, Session.history_add .., rfl⟩
          | panicked message =>
              simp only [turn, Session.receive, hr]
              exact ⟨_, hm ▸ .panic ha, Session.history_add .., rfl⟩
  | judged o => exact ⟨_, .log, Session.history_add .., rfl⟩
  | logged o =>
      cases hr : receiver o w.memory with
      | taken memory =>
          simp only [turn, deliver, hr]
          refine ⟨_, .deliver, Session.history_add .., ?_⟩
          simp [Receiver.feed, deliveries, hr, Reception.memory]
      | panicked memory =>
          simp only [turn, deliver, hr]
          refine ⟨_, .drop, Session.history_add .., ?_⟩
          simp [Receiver.feed, deliveries, hr, Reception.memory]

theorem not_mayKill (job : Job C) : ¬ Pool.MayKill (load t url receiver) job := by
  intro h
  induction h with
  | now ht =>
      obtain ⟨e, hadv, -⟩ := advance_of_load ht
      exact hadv.ne_fatal rfl
  | later _ _ ih => exact ih

theorem turn_ne_none (i : Nat) (job : Job C) (w : Shared S K) :
    (load t url receiver).turn i job w ≠ none := by
  rintro ⟨⟩

/-! ## Courses -/

/-- The events about a request whose call ended with the answer. -/
def course (url : String) (seq : Nat) (answer : Answer) : List Event :=
  [.requested seq url, .answered seq answer] ++
    match answer.outcome? with
    | none => []
    | some o => [.noted (outcomeNotice seq o), .delivered seq o]

/-- The events about a request, by how far it has come. -/
inductive Progress (url : String) (seq : Nat) : Pool.Place (Job C) → List Event → Prop where
  | waiting : Progress url seq .waiting []
  | ready : Progress url seq (.inHand ⟨seq, .ready⟩) []
  | sent {call : C} : Progress url seq (.inHand ⟨seq, .sent call⟩) [.requested seq url]
  | judged {result : Except Fault Response} :
      Progress url seq (.inHand ⟨seq, .judged (.ofResult result)⟩)
        [.requested seq url, .answered seq (.returned result)]
  | logged {result : Except Fault Response} :
      Progress url seq (.inHand ⟨seq, .logged (.ofResult result)⟩)
        [.requested seq url, .answered seq (.returned result),
          .noted (outcomeNotice seq (.ofResult result))]
  | ended (answer : Answer) : Progress url seq .ended (course url seq answer)

theorem Progress.seq_eq {seq : Nat} {job : Job C} {es : List Event}
    (h : Progress url seq (.inHand job) es) : job.seq = seq := by
  cases h <;> rfl

theorem Progress.advance {m m' : S} {seq : Nat} {job : Job C} {es : List Event} {e : Event}
    {next : Pool.Turn (Job C)} (h : Progress url seq (.inHand job) es)
    (ha : Advance t url m job e next m') : Progress url seq (.after next) (es ++ [e]) := by
  cases h with
  | ready =>
      cases ha
      exact .sent
  | sent =>
      cases ha with
      | answer => exact .judged
      | @panic _ _ message => exact .ended (.panicked message)
  | judged =>
      cases ha
      exact .logged
  | @logged result =>
      cases ha with
      | deliver => exact .ended (.returned result)
      | drop => exact .ended (.returned result)

/-- The call that a request has under way. -/
def underWay : Pool.Place (Job C) → Option C
  | .inHand ⟨_, .sent call⟩ => some call
  | _ => none

/-- What a stage does to the calls under way, it does to that of its own request. -/
theorem Advance.plays {m m' : S} {job : Job C} {e : Event} {next : Pool.Turn (Job C)}
    {calls : Calls C} (h : Advance t url m job e next m')
    (hcall : calls job.seq = underWay (.inHand job)) :
    t.Plays m calls e m' (Function.update calls job.seq (underWay (.after next))) := by
  have hsame : underWay (.after next) = underWay (.inHand job) →
      Function.update calls job.seq (underWay (.after next)) = calls := by
    intro hnext
    rw [hnext, ← hcall]
    exact Function.update_eq_self ..
  cases h with
  | send => exact .requested ..
  | answer ha => exact .answered hcall ha
  | panic ha => exact .answered hcall ha
  | log =>
      rw [hsame rfl]
      exact .noted _
  | deliver =>
      rw [hsame rfl]
      exact .delivered ..
  | drop =>
      rw [hsame rfl]
      exact .delivered ..

/-- Since the world was as in `w₀`, the events `es` have happened. They replay on the transport,
which leaves these calls under way, and what was handed over has been fed to the receiver. -/
structure Since (t : Transport S C) (receiver : Receiver K) (w₀ : Shared S K) (es : List Event)
    (calls : Calls C) (w : Shared S K) : Prop where
  history : w.session.history = w₀.session.history ++ es
  memory : w.memory = receiver.feed w₀.memory (deliveries es)
  replay : t.Replays w₀.session.memory (fun _ => none) es w.session.memory calls

variable {w₀ w w' : Shared S K} {es es' : List Event} {calls calls' : Calls C}

theorem Since.unique (h : Since t receiver w₀ es calls w) (h' : Since t receiver w₀ es' calls' w) :
    es = es' ∧ calls = calls' := by
  obtain rfl := List.append_cancel_left (h.history.symm.trans h'.history)
  exact ⟨rfl, (h.replay.unique h'.replay).2⟩

/-- An event, with the memory to go with it and what the transport has to do with it. -/
theorem Since.extend {e : Event} (h : Since t receiver w₀ es calls w)
    (hhistory : w'.session.history = w.session.history ++ [e])
    (hmemory : w'.memory = receiver.feed w.memory (deliveries [e]))
    (he : t.Plays w.session.memory calls e w'.session.memory calls') :
    Since t receiver w₀ (es ++ [e]) calls' w' where
  history := by rw [hhistory, h.history, List.append_assoc]
  memory := by rw [hmemory, h.memory, deliveries_append, Receiver.feed_append]
  replay := h.replay.append he.replays

theorem Since.turn {i : Nat} {job : Job C} {next : Pool.Turn (Job C)}
    (h : Since t receiver w₀ es calls w) (hcall : calls job.seq = underWay (.inHand job))
    (ht : (load t url receiver).turn i job w = some (next, w')) :
    ∃ e, Advance t url w.session.memory job e next w'.session.memory
      ∧ Since t receiver w₀ (es ++ [e])
        (Function.update calls job.seq (underWay (.after next))) w' := by
  obtain ⟨e, hadv, hhistory, hmemory⟩ := advance_of_load ht
  exact ⟨e, hadv, h.extend hhistory hmemory (hadv.plays hcall)⟩

theorem Since.record (h : Since t receiver w₀ es calls w) (event : Pool.Event) :
    Since t receiver w₀ (es ++ [.noted (.ofPool event)]) calls
      ((load t url receiver).record event w) :=
  h.extend (Session.history_add ..) rfl (.noted _)

/-- How far request `seq` has come since the world was as in `w₀`. -/
def Underway (t : Transport S C) (url : String) (receiver : Receiver K) (w₀ : Shared S K)
    (seq : Nat) (place : Pool.Place (Job C)) (w : Shared S K) : Prop :=
  ∃ es calls, Since t receiver w₀ es calls w ∧ Progress url seq place (about seq es)
    ∧ calls seq = underWay place

/-- The course of a request is moved on by its own stages alone. -/
theorem separate_underway (w₀ : Shared S K) :
    Pool.Separate (load t url receiver) (Underway t url receiver w₀)
      fun seq job => job = ⟨seq, .ready⟩ where
  taken {seq job w} hjob h := by
    subst hjob
    obtain ⟨es, calls, hsince, hprog, hcall⟩ := h
    refine ⟨es, calls, hsince, ?_, hcall⟩
    generalize about seq es = tr at hprog
    cases hprog
    exact .ready
  turn {seq i job next w w'} h ht := by
    obtain ⟨es, calls, hsince, hprog, hcall⟩ := h
    obtain rfl := hprog.seq_eq
    obtain ⟨e, hadv, hsince'⟩ := hsince.turn hcall ht
    refine ⟨_, _, hsince', ?_, Function.update_self ..⟩
    rw [about_append, about_singleton_self hadv.seq?_eq]
    exact hprog.advance hadv
  frame {seq seq' i job next place w w'} hne h ht h' := by
    obtain ⟨es, calls, hsince, hprog, hcall⟩ := h
    obtain ⟨es', calls', hsince₂, hprog', hcall'⟩ := h'
    obtain ⟨rfl, rfl⟩ := hsince.unique hsince₂
    obtain rfl := hprog.seq_eq
    obtain ⟨e, hadv, hsince'⟩ := hsince.turn hcall ht
    refine ⟨_, _, hsince', ?_, ?_⟩
    · rw [about_append, about_singleton_of_ne, List.append_nil]
      · exact hprog'
      · rw [hadv.seq?_eq]
        exact fun heq => hne (Option.some.inj heq)
    · rw [Function.update_of_ne (Ne.symm hne)]
      exact hcall'
  record {seq place w} event h := by
    obtain ⟨es, calls, hsince, hprog, hcall⟩ := h
    refine ⟨_, calls, hsince.record event, ?_, hcall⟩
    rw [about_append, about_singleton_of_ne, List.append_nil]
    · exact hprog
    · rw [seq?, seq?_ofPool]
      rintro ⟨⟩

end Batch

end Liveness

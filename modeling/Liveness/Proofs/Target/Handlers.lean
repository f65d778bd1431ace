import Mathlib.Logic.Relation
import Liveness.Proofs.Target.Flaky
import Liveness.Proofs.Target.Requests

/-!
# Handlers at the same time

A target serves requests at the same time, each by a handler that counts its hit in one step and
replies in a later one. Between the two the other handlers may do whatever they like. The hits
handed out are still the numbers from one up to the count of the target, each to one handler, and
every reply is made from the hit of its handler alone. How many of the replies are bad follows
from that: it is a matter of the hits that were answered, not of the order of steps.

One step keeps `Sound`: counting adds the next number to the hits handed out, and the other steps
hand out nothing. So `Sound` holds wherever a target gets to that starts without handlers.
-/

namespace Liveness

namespace Target

/-! ## Steps -/

/-- How far the handler of a request is. -/
inductive Handler where
  | arrived
  /-- the hit is counted, the reply is owed -/
  | counted (hit : Nat)
  | replied (hit : Nat) (reply : Reply)

namespace Handler

def hit? : Handler → Option Nat
  | .arrived => none
  | .counted hit => some hit
  | .replied hit _ => some hit

def owed? : Handler → Option Nat
  | .counted hit => some hit
  | _ => none

def answered? : Handler → Option Nat
  | .replied hit _ => some hit
  | _ => none

def reply? : Handler → Option Reply
  | .replied _ reply => some reply
  | _ => none

/-- Whether a handler has replied to one of the first `k` hits. -/
def hasAnswered (k : Nat) (h : Handler) : Bool := h.answered?.any (· ≤ k)

end Handler

/-- A target with the handlers of the requests that it serves. -/
structure Service where
  target : Target
  handlers : List Handler

namespace Service

/-- A target that no request has reached. -/
def idle (b : Behavior) : Service := ⟨ofBehavior b, []⟩

/-- The hits handed out. -/
def taken (s : Service) : List Nat := s.handlers.filterMap Handler.hit?

/-- The hits whose replies are still to come. -/
def owed (s : Service) : List Nat := s.handlers.filterMap Handler.owed?

def answered (s : Service) : List Nat := s.handlers.filterMap Handler.answered?

def replies (s : Service) : List Reply := s.handlers.filterMap Handler.reply?

/-- The replies to the first `k` hits. -/
def repliesUpTo (s : Service) (k : Nat) : List Reply :=
  (s.handlers.filter (Handler.hasAnswered k)).filterMap Handler.reply?

/-- One step of one handler, or a new request. -/
inductive Step : Service → Service → Prop where
  | arrive (t : Target) (hs : List Handler) : Step ⟨t, hs⟩ ⟨t, hs ++ [.arrived]⟩
  | count (t : Target) (before after : List Handler) :
      Step ⟨t, before ++ .arrived :: after⟩ ⟨t.count.2, before ++ .counted t.count.1 :: after⟩
  | reply (t : Target) (before : List Handler) (hit : Nat) (after : List Handler) :
      Step ⟨t, before ++ .counted hit :: after⟩
        ⟨t, before ++ .replied hit (Target.reply t.behavior hit) :: after⟩

/-- One service comes from another by steps in any order. -/
def Reaches : Service → Service → Prop := Relation.ReflTransGen Step

/-- A handler that nobody interrupts does what the router does with a request. -/
theorem reaches_handle {r : Request} (h : Router.serves r = true) (hget : r.method = "GET")
    (t : Target) (hs : List Handler) :
    Reaches ⟨t, hs⟩
      ⟨(Router.handle t r).2.1, hs ++ [.replied (t.hits + 1) (Router.handle t r).1]⟩ := by
  rw [Router.handle_of_serves h, if_pos hget]
  exact ((Relation.ReflTransGen.single (.arrive t hs)).tail (.count t hs [])).tail
    (.reply t.count.2 hs t.count.1 [])

/-! ## What every step keeps -/

structure Sound (b : Behavior) (s : Service) : Prop where
  behavior : s.target.behavior = b
  taken : s.taken.Perm (List.range' 1 s.target.hits)
  replied : ∀ hit reply, .replied hit reply ∈ s.handlers → reply = Target.reply b hit

variable {b : Behavior} {s s' : Service}

theorem sound_idle (b : Behavior) : Sound b (idle b) where
  behavior := rfl
  taken := .nil
  replied := by
    rintro _ _ ⟨⟩

/-- Whatever is among the handlers after one of them moved was there before, or is that one. -/
theorem mem_of_moved {before after : List Handler} {old new h : Handler}
    (hmem : h ∈ before ++ new :: after) : h = new ∨ h ∈ before ++ old :: after := by
  rcases List.mem_append.mp hmem with hmem | hmem
  · exact .inr (List.mem_append_left _ hmem)
  · rcases List.mem_cons.mp hmem with heq | hmem
    · exact .inl heq
    · exact .inr (List.mem_append_right _ (List.mem_cons_of_mem _ hmem))

theorem Sound.step (h : Sound b s) (hstep : Step s s') : Sound b s' := by
  have htaken := h.taken
  cases hstep with
  | arrive t hs =>
      refine ⟨h.behavior, ?_, ?_⟩
      · rw [Service.taken, List.filterMap_append, List.filterMap_cons_none rfl, List.filterMap_nil,
          List.append_nil]
        exact htaken
      · intro hit reply hmem
        rcases List.mem_append.mp hmem with hmem | hmem
        · exact h.replied hit reply hmem
        · cases List.mem_singleton.mp hmem
  | count t before after =>
      refine ⟨h.behavior, ?_, ?_⟩
      · simp only [Service.taken, count, List.filterMap_append, List.filterMap_cons, Handler.hit?]
          at htaken ⊢
        -- the number of the new hit is the last of the numbers up to the new count
        rw [List.range'_1_concat, Nat.add_comm 1]
        exact List.perm_middle.trans ((htaken.cons _).trans (List.perm_append_singleton _ _).symm)
      · intro hit reply hmem
        rcases mem_of_moved hmem with heq | hmem
        · cases heq
        · exact h.replied hit reply hmem
  | reply t before hit after =>
      refine ⟨h.behavior, ?_, ?_⟩
      · simp only [Service.taken, List.filterMap_append, List.filterMap_cons, Handler.hit?]
          at htaken ⊢
        exact htaken
      · intro hit' reply hmem
        rcases mem_of_moved hmem with heq | hmem
        · cases heq
          rw [← h.behavior]
        · exact h.replied hit' reply hmem

theorem Sound.reaches (h : Sound b s) (hreach : Reaches s s') : Sound b s' := by
  induction hreach with
  | refl => exact h
  | tail _ hstep ih => exact ih.step hstep

/-! ## What the replies are -/

/-- Every hit handed out is answered or owed. -/
theorem taken_perm (s : Service) : s.taken.Perm (s.answered ++ s.owed) := by
  rw [taken, answered, owed]
  induction s.handlers with
  | nil => exact .nil
  | cons h hs ih =>
      cases h with
      | arrived => exact ih
      | counted hit => exact (ih.cons hit).trans List.perm_middle.symm
      | replied hit reply => exact ih.cons hit

theorem Sound.perm (h : Sound b s) : (s.answered ++ s.owed).Perm (List.range' 1 s.target.hits) :=
  s.taken_perm.symm.trans h.taken

/-- The replies of some handlers are the ones to the hits that these have answered. -/
theorem Sound.replies_of (h : Sound b s) {hs : List Handler} (hsub : hs ⊆ s.handlers) :
    hs.filterMap Handler.reply? = (hs.filterMap Handler.answered?).map (Target.reply b) := by
  rw [List.map_filterMap]
  refine List.filterMap_congr fun handler hmem => ?_
  cases handler with
  | arrived => rfl
  | counted hit => rfl
  | replied hit reply => exact congrArg some (h.replied hit reply (hsub hmem))

theorem Sound.replies_eq (h : Sound b s) : s.replies = s.answered.map (Target.reply b) :=
  h.replies_of fun _ => id

theorem answered_upTo (hs : List Handler) (k : Nat) :
    (hs.filter (Handler.hasAnswered k)).filterMap Handler.answered?
      = (hs.filterMap Handler.answered?).filter (· ≤ k) := by
  rw [List.filterMap_filter, List.filter_filterMap]
  refine List.filterMap_congr fun h _ => ?_
  rw [Handler.hasAnswered]
  cases h.answered? with
  | none => rfl
  | some hit => rw [Option.any_some, Option.filter_some]

theorem filter_range' {k m : Nat} (h : k ≤ m) :
    (List.range' 1 m).filter (· ≤ k) = List.range' 1 k := by
  obtain ⟨rest, rfl⟩ := Nat.exists_eq_add_of_le h
  have hfirst : ∀ hit ∈ List.range' 1 k, decide (hit ≤ k) = true := by
    intro hit hmem
    have := (List.mem_range'_1.mp hmem).2
    exact decide_eq_true (by omega)
  have hrest : ∀ hit ∈ List.range' (1 + k) rest, ¬decide (hit ≤ k) = true := by
    intro hit hmem hle
    have := (List.mem_range'_1.mp hmem).1
    have := of_decide_eq_true hle
    omega
  rw [← List.range'_append_1, List.filter_append, List.filter_eq_self.mpr hfirst,
    List.filter_eq_nil_iff.mpr hrest, List.append_nil]

/-- Once the first `k` hits are answered, the replies to them are all there. -/
theorem Sound.repliesUpTo_perm (h : Sound b s) {k : Nat} (hk : k ≤ s.target.hits)
    (howed : ∀ hit ∈ s.owed, k < hit) :
    (s.repliesUpTo k).Perm ((List.range' 1 k).map (Target.reply b)) := by
  have hnone : s.owed.filter (· ≤ k) = [] := List.filter_eq_nil_iff.mpr fun hit hmem hle =>
    absurd (of_decide_eq_true hle) (Nat.not_le.mpr (howed hit hmem))
  have hperm := h.perm.filter (· ≤ k)
  rw [List.filter_append, hnone, List.append_nil, filter_range' hk] at hperm
  rw [repliesUpTo, h.replies_of (List.filter_subset_self _), answered_upTo]
  exact hperm.map _

/-! ## Bad replies -/

def isError (r : Reply) : Bool := r.status.value == StatusCode.serverError.value

/-- A target without a period never answers badly. -/
theorem statusFor_eq_ok (h : b = .healthy ∨ b = .failEvery 0) (hit : Nat) :
    statusFor b hit = .ok := by
  rcases h with rfl | rfl
  · rfl
  · rw [statusFor, if_neg]
    rintro ⟨hpos, -⟩
    exact Nat.lt_irrefl 0 hpos

/-- The reply to a hit is bad if the period divides its number. -/
theorem isError_reply {n : Nat} (hn : 0 < n) (hit : Nat) :
    isError (Target.reply (.failEvery n) hit) = decide (hit % n = 0) := by
  have hstatus : isError (Target.reply (.failEvery n) hit)
      = ((statusFor (.failEvery n) hit).value == StatusCode.serverError.value) := rfl
  rw [hstatus, statusFor]
  by_cases hbad : hit % n = 0
  · rw [if_pos ⟨hn, hbad⟩, decide_eq_true hbad]
    rfl
  · rw [if_neg fun h => hbad h.2, decide_eq_false hbad]
    decide

theorem countP_isError {n : Nat} (hn : 0 < n) (hits : List Nat) :
    (hits.map (Target.reply (.failEvery n))).countP isError = hits.countP (· % n = 0) := by
  rw [List.countP_map]
  exact List.countP_congr fun hit _ => by rw [Function.comp_apply, isError_reply hn]

/-- Of the first `k` hits one in `n` is a multiple of `n`. -/
theorem countP_range' {n : Nat} (hn : 0 < n) (k : Nat) :
    (List.range' 1 k).countP (· % n = 0) = k / n := by
  have hcount := countP_bad n 0 k
  rw [if_neg (Nat.ne_of_gt hn), Nat.zero_add, Nat.zero_div, Nat.sub_zero] at hcount
  rw [← hcount, List.range'_eq_map_range, List.countP_map]
  refine List.countP_congr fun i _ => ?_
  rw [Function.comp_apply, Nat.zero_add, Nat.add_comm 1, decide_eq_true_iff, decide_eq_true_iff]
  exact (and_iff_right hn).symm

theorem Sound.bad_add_owed {n : Nat} (h : Sound (.failEvery n) s) (hn : 0 < n) :
    s.replies.countP isError + s.owed.countP (· % n = 0) = s.target.hits / n := by
  rw [h.replies_eq, countP_isError hn, ← List.countP_append, h.perm.countP_eq, countP_range' hn]

/-- Handlers that serve one target at the same time. Wherever they are, the hits handed out are the
numbers from one up to the count, each handed to one handler, and each reply is the one to the hit
of its handler. A target without a period never answers badly and a fixed one answers with its
status alone. With a period `n` one in `n` of the hits is answered badly: at any time these are the
bad replies and the bad ones still owed, so when no reply is owed they are `k / n` of `k` replies.
The same holds of the replies to the first `k` hits as soon as these are answered, whatever is owed
to later ones. -/
theorem no_hit_lost (b : Behavior) {s : Service} (hreach : Reaches (idle b) s)
    (hfew : s.target.hits < UInt64.size) :
    s.taken.Perm (List.range' 1 s.target.hits)
      ∧ (∀ hit reply, .replied hit reply ∈ s.handlers → reply.status = statusFor b hit
        ∧ ∃ health, Health.parse reply.body = .ok health ∧ health.hit.toNat = hit)
      ∧ (b = .healthy ∨ b = .failEvery 0 → s.replies.countP isError = 0)
      ∧ (∀ status, b = .fixed status → ∀ reply ∈ s.replies, reply.status = status)
      ∧ s.replies.length + s.owed.length = s.target.hits
      ∧ ∀ n, b = .failEvery n → 0 < n →
        s.replies.countP isError + s.owed.countP (· % n = 0) = s.target.hits / n
          ∧ (s.owed = [] → s.replies.countP isError = s.replies.length / n)
          ∧ ∀ k ≤ s.target.hits, (∀ hit ∈ s.owed, k < hit) →
            (s.repliesUpTo k).length = k ∧ (s.repliesUpTo k).countP isError = k / n := by
  have hsound := (sound_idle b).reaches hreach
  have hlength : s.replies.length + s.owed.length = s.target.hits := by
    rw [hsound.replies_eq, List.length_map, ← List.length_append, hsound.perm.length_eq,
      List.length_range']
  refine ⟨hsound.taken, ?_, ?_, ?_, hlength, ?_⟩
  · intro hit reply hmem
    have htaken : hit ∈ s.taken := List.mem_filterMap.mpr ⟨_, hmem, rfl⟩
    have hle := (List.mem_range'_1.mp (hsound.taken.subset htaken)).2
    rw [hsound.replied hit reply hmem]
    exact ⟨rfl, _, parse_body b hit, health_hit (by omega) b⟩
  · intro hb
    refine List.countP_eq_zero.mpr fun reply hmem => ?_
    rw [hsound.replies_eq] at hmem
    obtain ⟨hit, -, rfl⟩ := List.mem_map.mp hmem
    have hstatus : (Target.reply b hit).status = .ok := statusFor_eq_ok hb hit
    rw [isError, hstatus]
    decide
  · rintro status rfl reply hmem
    rw [hsound.replies_eq] at hmem
    obtain ⟨hit, -, rfl⟩ := List.mem_map.mp hmem
    rfl
  · rintro n rfl hn
    refine ⟨hsound.bad_add_owed hn, fun howed => ?_, fun k hk howed => ?_⟩
    · have hbad := hsound.bad_add_owed hn
      rw [howed] at hbad hlength
      rw [← Nat.add_zero s.replies.length]
      exact hbad.trans (congrArg (· / n) hlength.symm)
    · have hperm := hsound.repliesUpTo_perm hk howed
      rw [hperm.length_eq, List.length_map, List.length_range', hperm.countP_eq,
        countP_isError hn, countP_range' hn]
      exact ⟨rfl, rfl⟩

/-- The first of three handlers gets the second hit and replies before the second handler, which
got the first hit; the third is about to count its hit. -/
def outOfOrder : Service :=
  ⟨⟨.failEvery 2, 2⟩, [.replied 2 (Target.reply (.failEvery 2) 2),
    .replied 1 (Target.reply (.failEvery 2) 1), .arrived]⟩

theorem reaches_outOfOrder : Reaches (idle (.failEvery 2)) outOfOrder := by
  have harrived : Reaches (idle (.failEvery 2))
      ⟨⟨.failEvery 2, 0⟩, [.arrived, .arrived, .arrived]⟩ :=
    ((Relation.ReflTransGen.single (.arrive _ [])).tail (.arrive _ [.arrived])).tail
      (.arrive _ [.arrived, .arrived])
  have hcounted : Reaches (idle (.failEvery 2))
      ⟨⟨.failEvery 2, 2⟩, [.counted 2, .counted 1, .arrived]⟩ :=
    (harrived.tail (.count _ [.arrived] [.arrived])).tail (.count _ [] [.counted 1, .arrived])
  exact (hcounted.tail (.reply _ [] 2 [.counted 1, .arrived])).tail
    (.reply _ [.replied 2 _] 1 [.arrived])

/-- Of the two requests that are answered one is bad: the one answered first. -/
theorem no_hit_lost_out_of_order :
    Reaches (idle (.failEvery 2)) outOfOrder
      ∧ outOfOrder.taken.Perm [1, 2]
      ∧ outOfOrder.replies.length = 2 ∧ outOfOrder.replies.countP isError = 1
      ∧ (outOfOrder.repliesUpTo 1).countP isError = 0 := by
  obtain ⟨htaken, -, -, -, hlength, hbad⟩ :=
    no_hit_lost (.failEvery 2) reaches_outOfOrder (by decide)
  obtain ⟨-, hall, hfirst⟩ := hbad 2 rfl (by decide)
  exact ⟨reaches_outOfOrder, htaken, hlength, (hall rfl).trans (congrArg (· / 2) hlength),
    (hfirst 1 (by decide) (by rintro _ ⟨⟩)).2⟩

end Service

end Target

end Liveness

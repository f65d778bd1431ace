import Liveness.Proofs.Probe.Batch
import Liveness.Proofs.Summary.Limit

/-!
# Outcomes collected in any order

What is collected from a list of outcomes are the counts of the list and nothing else. So its order
makes no difference, nor does it matter where the list is cut: the counters of two parts add up to
those of the whole, and where they cannot be added up the whole cannot be collected. To record the
outcomes one by one, as they come out of a batch, is another way to the same counters.
-/

namespace Liveness

namespace Summary

variable {os os' xs ys : List Outcome} {s t u : Summary}

/-- A caller who records the outcomes one by one has in the end what a run yields that is not cut
short. -/
theorem recordEach_of_recordAll (h : s.recordAll os = .ok u) : s.recordEach os = u := by
  induction os generalizing s with
  | nil => exact Except.ok.inj h
  | cons o os ih =>
      rw [recordAll] at h
      split at h
      · rename_i t hrecord
        rw [recordEach, List.foldl_cons, hrecord]
        exact ih h
      · cases h

theorem ofList_perm (h : os.Perm os') : ofList os = .ok s ↔ ofList os' = .ok s := by
  rw [ofList_eq_ok_iff, ofList_eq_ok_iff]
  exact ⟨fun hcounts => hcounts.perm h, fun hcounts => hcounts.perm h.symm⟩

/-- Each counter of `u` is the sum of those of `s` and `t`. -/
structure IsSum (s t u : Summary) : Prop where
  total : u.total.toNat = s.total.toNat + t.total.toNat
  counter : ∀ c, (u.counter c).toNat = (s.counter c).toNat + (t.counter c).toNat

theorem Counts.append_iff (hs : Counts xs s) (ht : Counts ys t) :
    Counts (xs ++ ys) u ↔ IsSum s t u := by
  have htotal : s.total.toNat + t.total.toNat = (xs ++ ys).length := by
    rw [hs.total, ht.total, List.length_append]
  have hcounter : ∀ c, (s.counter c).toNat + (t.counter c).toNat = tally (xs ++ ys) c := fun c => by
    rw [hs.counter, ht.counter, tally_append]
  constructor
  · intro h
    exact ⟨h.total.trans htotal.symm, fun c => (h.counter c).trans (hcounter c).symm⟩
  · intro h
    exact ⟨h.total.trans htotal, fun c => (h.counter c).trans (hcounter c)⟩

/-- A whole can be collected exactly if its parts can be and their counters can be added up. -/
theorem ofList_append_eq_ok_iff :
    ofList (xs ++ ys) = .ok u ↔
      ∃ s t, ofList xs = .ok s ∧ ofList ys = .ok t ∧ IsSum s t u := by
  constructor
  · intro h
    have hcounts := ofList_eq_ok_iff.mp h
    have hlt : xs.length + ys.length < UInt64.size := by
      rw [← List.length_append, ← hcounts.total]
      exact u.total.toNat_lt_size
    have hltxs : xs.length < UInt64.size := by omega
    have hltys : ys.length < UInt64.size := by omega
    obtain ⟨s, hs, hxs⟩ := exists_ofList hltxs
    obtain ⟨t, ht, hys⟩ := exists_ofList hltys
    exact ⟨s, t, hs, ht, (hxs.append_iff hys).mp hcounts⟩
  · rintro ⟨s, t, hs, ht, hsum⟩
    have hxs := ofList_eq_ok_iff.mp hs
    exact ofList_eq_ok_iff.mpr ((hxs.append_iff (ofList_eq_ok_iff.mp ht)).mpr hsum)

/-- Fewer outcomes than a counter can hold are counted, in all and by class, and it makes no
difference whether they are collected or recorded one by one. So the counters of two lists add up
to those of the lists put together, and the order of a list does not matter. What is collected from
a batch is what the outcomes that were handed over leave when they are recorded one by one, and any
other order of them would leave the same. -/
theorem order_free_counts :
    (∀ os, os.length < UInt64.size →
        ofList os = .ok (empty.recordEach os) ∧ Counts os (empty.recordEach os))
      ∧ (∀ xs ys u, ofList (xs ++ ys) = .ok u ↔
        ∃ s t, ofList xs = .ok s ∧ ofList ys = .ok t ∧ IsSum s t u)
      ∧ (∀ os os', os.Perm os' → ∀ s, ofList os = .ok s ↔ ofList os' = .ok s)
      ∧ ∀ {S C : Type} (p : Prober S C), p.config.violation? = none →
        ∀ res : Pool.Resources, res.Suffice p.config.concurrency.toNat →
        ∀ (σ : Schedule) (before : Session S), ∃ es after,
          after.history = before.history ++ es
            ∧ p.collect σ before res = (.value (empty.recordEach (Event.deliveries es)), after)
            ∧ ∀ os, os.Perm (Event.deliveries es) →
              ofList os = .ok (empty.recordEach (Event.deliveries es)) := by
  refine ⟨fun os hlt => ?_, fun _ _ _ => ofList_append_eq_ok_iff, fun _ _ h _ => ofList_perm h, ?_⟩
  · obtain ⟨s, hs, hcounts⟩ := exists_ofList hlt
    obtain rfl := recordEach_of_recordAll hs
    exact ⟨hs, hcounts⟩
  · intro S C p hvalid res hres σ before
    obtain ⟨es, answer, after, kept, s, hcollect, haccounted, hs, -⟩ :=
      Prober.collect_accounted hvalid hres σ before
    obtain rfl := recordEach_of_recordAll hs
    exact ⟨es, after, haccounted.history, hcollect, fun os hperm => (ofList_perm hperm).mpr hs⟩

/-- Outcomes of all three classes. -/
def medley : List Outcome :=
  [.good (Response.ofStatus 200), .failed .poolClosed, .bad (Response.ofStatus 404),
    .good (Response.ofStatus 200)]

/-- A list of outcomes collected forwards and backwards, and a batch of which one call panics. -/
theorem medley_counted :
    medley.length < UInt64.size ∧ ofList medley = .ok ⟨4, 2, 1, 1⟩
      ∧ medley.reverse.Perm medley ∧ ofList medley.reverse = .ok ⟨4, 2, 1, 1⟩
      ∧ ∃ es after,
        (Prober.mk ⟨"127.0.0.1", 8005, 4, 2⟩
          (Script.transport [.status 200, .refused, .answer (.panicked "boom")])).collect .inTurn
            (.begin 0) .ample = (.value (empty.recordEach (Event.deliveries es)), after)
        ∧ ofList (Event.deliveries es).reverse
          = .ok (empty.recordEach (Event.deliveries es)) := by
  obtain ⟨hcount, -, hperm, hcollect⟩ := order_free_counts
  have hlt : medley.length < UInt64.size := by decide
  have hmedley : ofList medley = .ok ⟨4, 2, 1, 1⟩ := (hcount medley hlt).1
  have hreverse : medley.reverse.Perm medley := List.reverse_perm _
  obtain ⟨es, after, -, hes, horder⟩ := hcollect ⟨⟨"127.0.0.1", 8005, 4, 2⟩,
    Script.transport [.status 200, .refused, .answer (.panicked "boom")]⟩ (by decide) .ample
    (Pool.Resources.ample_suffice (by decide)) .inTurn (.begin 0)
  exact ⟨hlt, hmedley, hreverse, (hperm _ _ hreverse _).mpr hmedley, es, after, hes,
    horder _ (List.reverse_perm _)⟩

end Summary

end Liveness

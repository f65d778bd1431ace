import Liveness.Proofs.Summary.Recording

/-!
# What a summary counts

A summary that is collected from a list of outcomes has the length of the list as its total, and in
each class the number of outcomes of that class. Fewer than `UInt64.size` outcomes never fill a
counter, so they can be collected.

A recording adds one outcome to the counters that it finds, whatever these are, and so a run of
recordings adds its whole list (`Adds`). This needs no bound on the length, since a run that is not
cut short has filled no counter; a bound is needed only to show that it is not cut short.
-/

namespace Liveness

namespace Summary

variable {os xs ys rest : List Outcome} {s t u : Summary} {o : Outcome}

/-- The number of outcomes of a class. -/
def tally (os : List Outcome) (c : Outcome.Class) : Nat :=
  os.countP fun o => o.kind = c

structure Counts (os : List Outcome) (s : Summary) : Prop where
  total : s.total.toNat = os.length
  counter : ∀ c, (s.counter c).toNat = tally os c

theorem counts_empty : Counts [] empty where
  total := rfl
  counter c := by cases c <;> rfl

/-! ## Counting on -/

theorem tally_append (os rest : List Outcome) (c : Outcome.Class) :
    tally (os ++ rest) c = tally os c + tally rest c :=
  List.countP_append

theorem tally_singleton (o : Outcome) (c : Outcome.Class) :
    tally [o] c = if o.kind = c then 1 else 0 := by
  simp [tally, List.countP_cons]

/-- Each outcome is of one class. -/
theorem tally_sum (os : List Outcome) :
    tally os .good + tally os .bad + tally os .failed = os.length := by
  induction os with
  | nil => rfl
  | cons o os ih =>
      have hcons : ∀ c, tally (o :: os) c = tally [o] c + tally os c := fun c =>
        tally_append [o] os c
      have hone : tally [o] .good + tally [o] .bad + tally [o] .failed = 1 := by
        simp only [tally_singleton]
        cases o.kind <;> rfl
      rw [hcons, hcons, hcons, List.length_cons]
      omega

theorem tally_le (os : List Outcome) (c : Outcome.Class) : tally os c ≤ os.length :=
  List.countP_le_length

/-- The counters of `u` are those of `s` raised by the counts of `os`. -/
structure Adds (s : Summary) (os : List Outcome) (u : Summary) : Prop where
  total : u.total.toNat = s.total.toNat + os.length
  counter : ∀ c, (u.counter c).toNat = (s.counter c).toNat + tally os c

theorem Adds.trans (h : Adds s xs t) (h' : Adds t ys u) : Adds s (xs ++ ys) u where
  total := by rw [h'.total, h.total, List.length_append, Nat.add_assoc]
  counter c := by rw [h'.counter, h.counter, tally_append, Nat.add_assoc]

theorem adds_of_record (h : s.record o = .ok u) : Adds s [o] u := by
  cases recording_of_eq h with
  | counted _ _ htotal hcounter =>
      exact ⟨htotal, fun c => by rw [hcounter, tally_singleton]⟩

theorem adds_of_recordAll (h : s.recordAll os = .ok u) : Adds s os u := by
  induction os generalizing s with
  | nil =>
      obtain rfl := Except.ok.inj h
      exact ⟨rfl, fun _ => rfl⟩
  | cons o os ih =>
      rw [recordAll] at h
      split at h
      · rename_i t hrecord
        exact (adds_of_record hrecord).trans (ih h)
      · cases h

theorem Counts.add (h : Counts os s) (hadds : Adds s rest u) : Counts (os ++ rest) u where
  total := by rw [hadds.total, h.total, List.length_append]
  counter c := by rw [hadds.counter, h.counter, tally_append]

/-- There is room for one more outcome as long as the total is not full. -/
theorem Counts.exists_record (h : Counts os s) (hlt : os.length + 1 < UInt64.size) (o : Outcome) :
    ∃ u, s.record o = .ok u := by
  have htotal := h.total
  have hclass := h.counter o.kind
  have hle := tally_le os o.kind
  generalize hrecord : s.record o = result
  cases recording_of_eq hrecord with
  | counted => exact ⟨_, rfl⟩
  | refused hfull =>
      unfold IsFull at hfull
      omega
  | halfDone _ hfull =>
      unfold IsFull at hfull
      omega

theorem Counts.exists_recordAll (h : Counts os s) (hlt : os.length + rest.length < UInt64.size) :
    ∃ u, s.recordAll rest = .ok u := by
  induction rest generalizing os s with
  | nil => exact ⟨s, rfl⟩
  | cons o rest ih =>
      rw [List.length_cons] at hlt
      obtain ⟨t, hrecord⟩ := h.exists_record (by omega) o
      have hlen : (os ++ [o]).length + rest.length < UInt64.size := by
        rw [List.length_append, List.length_singleton]
        omega
      obtain ⟨u, hrest⟩ := ih (h.add (adds_of_record hrecord)) hlen
      refine ⟨u, ?_⟩
      rw [recordAll, hrecord]
      exact hrest

/-- Fewer than `UInt64.size` outcomes can be counted. -/
theorem exists_ofList (hlt : os.length < UInt64.size) :
    ∃ s, ofList os = .ok s ∧ Counts os s := by
  have hstart : ([] : List Outcome).length + os.length < UInt64.size := by
    rw [List.length_nil, Nat.zero_add]
    exact hlt
  obtain ⟨s, hs⟩ := counts_empty.exists_recordAll hstart
  exact ⟨s, hs, counts_empty.add (adds_of_recordAll hs)⟩

/-! ## What the counters tell -/

theorem Counts.total_eq (h : Counts os s) :
    s.total.toNat = s.succeeded.toNat + s.badStatus.toNat + s.failed.toNat := by
  have hgood := h.counter .good
  have hbad := h.counter .bad
  have hfailed := h.counter .failed
  simp only [Summary.counter] at hgood hbad hfailed
  rw [h.total, hgood, hbad, hfailed]
  exact (tally_sum os).symm

/-- The order of the outcomes does not matter. -/
theorem Counts.perm {os' : List Outcome} (h : Counts os s) (hperm : os.Perm os') :
    Counts os' s where
  total := by rw [h.total, hperm.length_eq]
  counter c := by
    rw [h.counter c]
    exact hperm.countP_eq _

theorem Counts.unique {s' : Summary} (h : Counts os s) (h' : Counts os s') : s = s' := by
  have htotal : s.total = s'.total := by rw [← UInt64.toNat_inj, h.total, h'.total]
  have hcounter : ∀ c, s.counter c = s'.counter c := fun c => by
    rw [← UInt64.toNat_inj, h.counter c, h'.counter c]
  obtain ⟨total, succeeded, badStatus, failed⟩ := s
  obtain ⟨total', succeeded', badStatus', failed'⟩ := s'
  obtain rfl : total = total' := htotal
  obtain rfl : succeeded = succeeded' := hcounter .good
  obtain rfl : badStatus = badStatus' := hcounter .bad
  obtain rfl : failed = failed' := hcounter .failed
  rfl

/-- A summary is collected from a list exactly if it holds the counts of the list. -/
theorem ofList_eq_ok_iff : ofList os = .ok s ↔ Counts os s := by
  constructor
  · intro h
    exact counts_empty.add (adds_of_recordAll h)
  · intro h
    obtain ⟨s', hs', hcounts⟩ := exists_ofList (h.total ▸ s.total.toNat_lt_size)
    rw [hs', hcounts.unique h]

theorem Counts.failures? (h : Counts os s) (hlt : os.length < UInt64.size) :
    ∃ n, s.failures? = some n ∧ n.toNat = tally os .bad + tally os .failed := by
  have hsum := tally_sum os
  have hroom : s.badStatus.toNat + s.failed.toNat < UInt64.size := by
    have hbad := h.counter .bad
    have hfailed := h.counter .failed
    simp only [Summary.counter] at hbad hfailed
    omega
  refine ⟨s.badStatus + s.failed, if_pos hroom, ?_⟩
  rw [UInt64.toNat_add, Nat.mod_eq_of_lt hroom, ← h.counter .bad, ← h.counter .failed]
  rfl

theorem isGood_iff_kind {o : Outcome} : o.isGood = true ↔ o.kind = .good := by
  cases o <;> simp [Outcome.isGood, Outcome.kind]

theorem tally_good_eq_length : tally os .good = os.length ↔ ∀ o ∈ os, o.isGood = true := by
  simp only [tally, List.countP_eq_length, decide_eq_true_eq, isGood_iff_kind]

/-- A batch has succeeded when it had an outcome and none but good ones. -/
theorem Counts.allSucceeded? (h : Counts os s) (hlt : os.length < UInt64.size) :
    ∃ b, s.allSucceeded? = some b ∧ (b = true ↔ os ≠ [] ∧ ∀ o ∈ os, o.isGood = true) := by
  unfold Summary.allSucceeded?
  split
  · rename_i hzero
    refine ⟨false, rfl, ?_⟩
    have hnil : os = [] := by
      refine List.length_eq_zero_iff.mp ?_
      rw [← h.total, hzero]
      rfl
    simp [hnil]
  · rename_i hne
    obtain ⟨n, hn, hnat⟩ := h.failures? hlt
    refine ⟨n == 0, by rw [hn]; rfl, ?_⟩
    have hnil : os ≠ [] := by
      rintro rfl
      exact hne (UInt64.toNat_inj.mp h.total)
    have hzero : n = 0 ↔ n.toNat = 0 := by
      rw [← UInt64.toNat_inj]
      rfl
    have hsum := tally_sum os
    rw [beq_iff_eq, hzero, ← tally_good_eq_length]
    constructor
    · intro hn
      exact ⟨hnil, by omega⟩
    · rintro ⟨-, hgood⟩
      omega

end Summary

end Liveness

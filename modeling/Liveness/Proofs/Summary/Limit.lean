import Liveness.Proofs.Summary.Recording

/-!
# Counters at their limit

A recording that finds a full counter is cut short, and may have raised the total by then.

The half-done state, with a total that is ahead of its classes, is never reached from an empty
summary. There the total is the sum of the classes, and this carries the argument: a class that is
full fills the total, so a recording is cut short before it has raised anything, and the failures
are at most the total, so their sum fits its word.
-/

namespace Liveness

namespace Summary

variable {s : Summary} {c : Outcome.Class}

/-! ## The total as the sum of the classes -/

def Balanced (s : Summary) : Prop :=
  s.total.toNat = s.succeeded.toNat + s.badStatus.toNat + s.failed.toNat

theorem Balanced.isFull_total (h : s.Balanced) (hfull : IsFull (s.counter c)) :
    IsFull s.total := by
  have hlt := s.total.toNat_lt_size
  have hle : (s.counter c).toNat ≤ s.total.toNat := by
    rw [h]
    cases c <;> simp only [counter] <;> omega
  unfold IsFull at hfull ⊢
  omega

/-- A recording keeps the balance or changes nothing. -/
theorem Balanced.record (h : s.Balanced) (o : Outcome) :
    (∃ s', s.record o = .ok s' ∧ s'.Balanced) ∨ s.record o = .error s := by
  generalize hrecord : s.record o = result
  cases recording_of_eq hrecord with
  | @counted s' _ _ htotal hcounter =>
      refine .inl ⟨s', rfl, ?_⟩
      have hgood := hcounter .good
      have hbad := hcounter .bad
      have hfailed := hcounter .failed
      simp only [Summary.counter] at hgood hbad hfailed
      unfold Balanced at h ⊢
      rw [htotal, h, hgood, hbad, hfailed]
      cases o.kind <;> simp only [reduceCtorEq, reduceIte] <;> omega
  | refused => exact .inr rfl
  | halfDone hroom hfull => exact absurd (h.isFull_total hfull) hroom

/-- The counters that are left, whether or not the computation was cut short. -/
def left : Except Summary Summary → Summary
  | .ok s => s
  | .error s => s

/-- The counters after outcomes were recorded one by one, by a caller who goes on with the next
when a recording is cut short. -/
def recordEach (s : Summary) (os : List Outcome) : Summary :=
  os.foldl (fun s o => left (s.record o)) s

theorem Balanced.recordEach (h : s.Balanced) (os : List Outcome) : (s.recordEach os).Balanced := by
  induction os generalizing s with
  | nil => exact h
  | cons o os ih =>
      rw [Summary.recordEach, List.foldl_cons]
      refine ih ?_
      rcases h.record o with ⟨s', hs', hbalanced⟩ | hs
      · rw [hs']
        exact hbalanced
      · rw [hs]
        exact h

theorem Balanced.recordAll (h : s.Balanced) (os : List Outcome) :
    (left (s.recordAll os)).Balanced := by
  induction os generalizing s with
  | nil => exact h
  | cons o os ih =>
      rw [Summary.recordAll]
      rcases h.record o with ⟨s', hs', hbalanced⟩ | hs
      · rw [hs']
        exact ih hbalanced
      · rw [hs]
        exact h

/-! ## What a balanced summary tells -/

theorem Balanced.failures? (h : s.Balanced) :
    ∃ n, s.failures? = some n ∧ n.toNat = s.badStatus.toNat + s.failed.toNat := by
  have hlt := s.total.toNat_lt_size
  unfold Balanced at h
  have hroom : s.badStatus.toNat + s.failed.toNat < UInt64.size := by omega
  refine ⟨s.badStatus + s.failed, if_pos hroom, ?_⟩
  rw [UInt64.toNat_add]
  exact Nat.mod_eq_of_lt hroom

theorem Balanced.allSucceeded? (h : s.Balanced) :
    s.allSucceeded? = some (decide (0 < s.total.toNat ∧ s.succeeded = s.total)) := by
  obtain ⟨n, hn, hnat⟩ := h.failures?
  unfold Balanced at h
  unfold Summary.allSucceeded?
  split
  · rename_i hzero
    rw [hzero]
    rfl
  · rename_i hne
    have hpos : 0 < s.total.toNat :=
      Nat.pos_of_ne_zero fun hzero => hne (UInt64.toNat_inj.mp hzero)
    have hsame : n = 0 ↔ s.succeeded = s.total := by
      rw [← UInt64.toNat_inj, ← UInt64.toNat_inj, hnat, UInt64.toNat_zero]
      omega
    rw [hn, Option.map_some, Option.some.injEq, Bool.eq_iff_iff, beq_iff_eq, decide_eq_true_iff,
      hsame]
    exact (and_iff_right hpos).symm

/-- A recording counts an outcome in all and in its class, and it is cut short exactly if one of
these two counters is full. From an empty summary on, whatever is recorded and however often that
is cut short, the total stays the sum of the classes. Where it is, a recording that is cut short
changes nothing, the failures can be added up, and all have succeeded if there was an outcome and
the good ones are as many as all. -/
theorem counters_at_limit :
    (∀ (s : Summary) (o : Outcome), Recording s o (s.record o)
        ∧ ((∃ s', s.record o = .error s') ↔ IsFull s.total ∨ IsFull (s.counter o.kind)))
      ∧ (∀ os, (left (empty.recordAll os)).Balanced ∧ (empty.recordEach os).Balanced)
      ∧ ∀ s : Summary, s.Balanced →
        (∀ o s', s.record o = .error s' → s' = s)
          ∧ (∃ n, s.failures? = some n ∧ n.toNat = s.badStatus.toNat + s.failed.toNat)
          ∧ s.allSucceeded? = some (decide (0 < s.total.toNat ∧ s.succeeded = s.total)) := by
  have hempty : empty.Balanced := rfl
  refine ⟨fun s o => ⟨recording s o, exists_error_iff⟩,
    fun os => ⟨hempty.recordAll os, hempty.recordEach os⟩, fun s h => ⟨?_, h.failures?,
    h.allSucceeded?⟩⟩
  intro o s' herror
  rcases h.record o with ⟨_, hok, -⟩ | hsame
  · cases hok.symm.trans herror
  · exact (Except.error.inj (hsame.symm.trans herror)).symm

/-- As many good outcomes as can be counted. -/
def brimful : Summary := ⟨UInt64.ofNat (UInt64.size - 1), UInt64.ofNat (UInt64.size - 1), 0, 0⟩

theorem brimful_unchanged :
    brimful.Balanced ∧ (∀ o, brimful.record o = .error brimful)
      ∧ (∃ n, brimful.failures? = some n ∧ n.toNat = 0) ∧ brimful.allSucceeded? = some true := by
  obtain ⟨hrecord, -, hbalanced⟩ := counters_at_limit
  have hsum : brimful.Balanced := rfl
  obtain ⟨hsame, hfailures, hall⟩ := hbalanced brimful hsum
  refine ⟨hsum, fun o => ?_, hfailures, hall.trans (by decide)⟩
  obtain ⟨s', hs'⟩ := (hrecord brimful o).2.mpr (.inl rfl)
  rw [hs', hsame o s' hs']

end Summary

end Liveness

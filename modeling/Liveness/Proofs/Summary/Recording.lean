import Liveness.Summary

/-!
# Recording an outcome

To record an outcome two counters are raised, one after the other, and either of them may be full.
What a recording does is said once, by `Recording`: it raises the total and then the counter of the
class, or it is cut short in front of the first or between the two. What is counted, and what
becomes of counters that are full, follows from its cases.
-/

namespace Liveness

namespace Summary

variable {n : UInt64} {s : Summary} {o : Outcome} {c : Outcome.Class}

/-- The counter of a class. -/
def counter (s : Summary) : Outcome.Class → UInt64
  | .good => s.succeeded
  | .bad => s.badStatus
  | .failed => s.failed

/-! ## Raising one counter -/

/-- The counter has no next value. -/
def IsFull (n : UInt64) : Prop := n.toNat = UInt64.size - 1

theorem raise?_eq_some (h : n.toNat + 1 < UInt64.size) :
    raise? n = some (n + 1) ∧ (n + 1).toNat = n.toNat + 1 := by
  have hne : n ≠ UInt64.ofNat (UInt64.size - 1) := by
    rintro rfl
    exact absurd h (by decide)
  refine ⟨if_neg hne, ?_⟩
  rw [UInt64.toNat_add]
  exact Nat.mod_eq_of_lt h

theorem raise?_of_isFull (h : IsFull n) : raise? n = none := by
  refine if_pos (UInt64.toNat_inj.mp ?_)
  rw [h]
  rfl

theorem lt_of_not_isFull (h : ¬ IsFull n) : n.toNat + 1 < UInt64.size := by
  have hlt := n.toNat_lt_size
  unfold IsFull at h
  omega

theorem raiseClass?_eq_some (h : (s.counter c).toNat + 1 < UInt64.size) :
    ∃ s', s.raiseClass? c = some s' ∧ s'.total = s.total
      ∧ ∀ c', (s'.counter c').toNat = (s.counter c').toNat + if c = c' then 1 else 0 := by
  obtain ⟨hraise, hnat⟩ := raise?_eq_some h
  cases c with
  | good =>
      refine ⟨{ s with succeeded := s.succeeded + 1 }, ?_, rfl, ?_⟩
      · rw [raiseClass?, show raise? s.succeeded = _ from hraise]
        rfl
      · rintro (_ | _ | _)
        · exact hnat
        · rfl
        · rfl
  | bad =>
      refine ⟨{ s with badStatus := s.badStatus + 1 }, ?_, rfl, ?_⟩
      · rw [raiseClass?, show raise? s.badStatus = _ from hraise]
        rfl
      · rintro (_ | _ | _)
        · rfl
        · exact hnat
        · rfl
  | failed =>
      refine ⟨{ s with failed := s.failed + 1 }, ?_, rfl, ?_⟩
      · rw [raiseClass?, show raise? s.failed = _ from hraise]
        rfl
      · rintro (_ | _ | _)
        · rfl
        · rfl
        · exact hnat

theorem raiseClass?_of_isFull (h : IsFull (s.counter c)) : s.raiseClass? c = none := by
  have hnone := raise?_of_isFull h
  cases c with
  | good => exact congrArg (Option.map _) hnone
  | bad => exact congrArg (Option.map _) hnone
  | failed => exact congrArg (Option.map _) hnone

/-! ## What a recording does -/

/-- What becomes of a summary when an outcome is recorded; an error holds the counters as they are
left. -/
inductive Recording (s : Summary) (o : Outcome) : Except Summary Summary → Prop where
  | counted {s' : Summary} (hroom : ¬ IsFull s.total) (hclass : ¬ IsFull (s.counter o.kind))
      (total : s'.total.toNat = s.total.toNat + 1)
      (counter : ∀ c, (s'.counter c).toNat = (s.counter c).toNat + if o.kind = c then 1 else 0) :
      Recording s o (.ok s')
  | refused (hfull : IsFull s.total) : Recording s o (.error s)
  | halfDone {s' : Summary} (hroom : ¬ IsFull s.total) (hfull : IsFull (s.counter o.kind))
      (total : s'.total.toNat = s.total.toNat + 1) (counter : ∀ c, s'.counter c = s.counter c) :
      Recording s o (.error s')

theorem recording (s : Summary) (o : Outcome) : Recording s o (s.record o) := by
  by_cases htotal : IsFull s.total
  · rw [record, raise?_of_isFull htotal]
    exact .refused htotal
  · obtain ⟨hraise, hnat⟩ := raise?_eq_some (lt_of_not_isFull htotal)
    let counted : Summary := { s with total := s.total + 1 }
    have hsame : ∀ c, counted.counter c = s.counter c := by
      intro c
      cases c <;> rfl
    rw [record, hraise]
    dsimp only
    by_cases hclass : IsFull (s.counter o.kind)
    · have hnone : counted.raiseClass? o.kind = none :=
        raiseClass?_of_isFull (by rw [hsame]; exact hclass)
      rw [hnone]
      exact .halfDone htotal hclass hnat hsame
    · obtain ⟨s', hs', htotal', hcounter⟩ := raiseClass?_eq_some (s := counted) (c := o.kind)
        (by rw [hsame]; exact lt_of_not_isFull hclass)
      rw [hs']
      refine .counted htotal hclass (by rw [htotal']; exact hnat) fun c => ?_
      rw [hcounter, hsame]

theorem recording_of_eq {result : Except Summary Summary} (h : s.record o = result) :
    Recording s o result :=
  h ▸ recording s o

theorem exists_error_iff :
    (∃ s', s.record o = .error s') ↔ IsFull s.total ∨ IsFull (s.counter o.kind) := by
  generalize hrecord : s.record o = result
  cases recording_of_eq hrecord with
  | counted hroom hclass =>
      refine ⟨by rintro ⟨_, ⟨⟩⟩, ?_⟩
      rintro (hfull | hfull)
      · exact absurd hfull hroom
      · exact absurd hfull hclass
  | refused hfull => exact ⟨fun _ => .inl hfull, fun _ => ⟨_, rfl⟩⟩
  | halfDone _ hfull => exact ⟨fun _ => .inr hfull, fun _ => ⟨_, rfl⟩⟩

/-- A class that is full before the total is. -/
example (r : Response) :
    Summary.record ⟨5, UInt64.ofNat (UInt64.size - 1), 0, 0⟩ (.good r)
      = .error ⟨6, UInt64.ofNat (UInt64.size - 1), 0, 0⟩ := rfl

end Summary

end Liveness

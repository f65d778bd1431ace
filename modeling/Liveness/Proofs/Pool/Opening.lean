import Liveness.Pool.Machine

/-!
# What keeps a pool from opening

Opening a pool depends on the system: it has to have room for the handles of the workers, and to
start each of them. `Obstacle` lists all that can stand in the way, each with the exact condition
under which it does, and a pool opens when nothing does. So everything that has to open a pool
first can be followed by cases on `hindrance?`.
-/

namespace Liveness

namespace Pool

variable {J W : Type} {load : Workload J W} {res : Resources} {size : Nat} {world : W}
  {p : Pool J W} {d : Hindrance}

namespace Resources

/-- The handles of that many workers can be addressed, and the block for them is to be had. -/
structure HasRoom (res : Resources) (size : Nat) : Prop where
  fits : size * handleSize ≤ blockLimit
  granted : res.grants (size * handleSize) = true

/-- Of so many workers, one is refused for a cause, and those before it are started. -/
def Refuses (res : Resources) (size : Nat) (cause : OsError) : Prop :=
  ∃ i < size, res.refusal? i = some cause ∧ ∀ j < i, res.refusal? j = none

/-- All that a pool of a given size takes. -/
structure Suffice (res : Resources) (size : Nat) : Prop where
  room : res.HasRoom size
  started : ∀ i < size, res.refusal? i = none

theorem ample_suffice (h : size * handleSize ≤ blockLimit) : ample.Suffice size :=
  ⟨⟨h, rfl⟩, fun _ _ => rfl⟩

theorem Refuses.pos {cause : OsError} (h : res.Refuses size cause) : 0 < size := by
  obtain ⟨i, hi, -⟩ := h
  exact Nat.lt_of_le_of_lt (Nat.zero_le i) hi

/-- The first refusal is what asking for the workers one after the other comes to. -/
theorem findSome?_refusal_eq_some_iff {cause : OsError} :
    (List.range size).findSome? res.refusal? = some cause ↔ res.Refuses size cause := by
  induction size with
  | zero =>
      refine ⟨by rintro ⟨⟩, ?_⟩
      rintro ⟨i, hi, -⟩
      cases hi
  | succ n ih =>
      rw [List.range_succ, List.findSome?_append, Option.or_eq_some_iff, ih]
      have hlast : [n].findSome? res.refusal? = res.refusal? n := by
        cases h : res.refusal? n <;> simp [h]
      have hnone : (List.range n).findSome? res.refusal? = none
          ↔ ∀ j < n, res.refusal? j = none := by
        simp [List.findSome?_eq_none_iff]
      rw [hlast, hnone]
      constructor
      · rintro (⟨i, hi, hcause⟩ | ⟨hbefore, hcause⟩)
        · exact ⟨i, Nat.lt_succ_of_lt hi, hcause⟩
        · exact ⟨n, Nat.lt_succ_self n, hcause, hbefore⟩
      · rintro ⟨i, hi, hcause, hbefore⟩
        rcases Nat.lt_succ_iff_lt_or_eq.mp hi with hi | rfl
        · exact .inl ⟨i, hi, hcause, hbefore⟩
        · exact .inr ⟨hbefore, hcause⟩

end Resources

/-! ## Obstacles -/

/-- What keeps a pool of a given size from opening, and when. -/
inductive Obstacle (res : Resources) (size : Nat) : Hindrance → Prop where
  | noWorkers (h : size = 0) : Obstacle res size (.fault (.invalidConfig noWorkers))
  | tooMany (hpos : 0 < size) (h : blockLimit < size * handleSize) :
      Obstacle res size (.abort capacityMessage)
  | noRoom (hpos : 0 < size) (hfits : size * handleSize ≤ blockLimit)
      (h : res.grants (size * handleSize) = false) :
      Obstacle res size (.abort (allocationMessage (size * handleSize)))
  | refused {cause : OsError} (hroom : res.HasRoom size) (h : res.Refuses size cause) :
      Obstacle res size (.fault (.spawn cause))

theorem hindrance?_of_room (hpos : 0 < size) (h : res.HasRoom size) :
    hindrance? res size
      = ((List.range size).findSome? res.refusal?).map fun cause => .fault (.spawn cause) := by
  rw [hindrance?, if_neg (Nat.ne_of_gt hpos), if_neg (Nat.not_lt.mpr h.fits), if_pos h.granted]

theorem hindrance?_eq_some_iff : hindrance? res size = some d ↔ Obstacle res size d := by
  constructor
  · intro h
    unfold hindrance? at h
    split at h
    · rename_i hzero
      obtain rfl := Option.some.inj h
      exact .noWorkers hzero
    · rename_i hpos
      have hpos := Nat.pos_of_ne_zero hpos
      split at h
      · rename_i hmany
        obtain rfl := Option.some.inj h
        exact .tooMany hpos hmany
      · rename_i hfits
        have hfits := Nat.not_lt.mp hfits
        split at h
        · rename_i hgranted
          obtain ⟨cause, hcause, rfl⟩ := Option.map_eq_some_iff.mp h
          exact .refused ⟨hfits, hgranted⟩ (Resources.findSome?_refusal_eq_some_iff.mp hcause)
        · rename_i hdenied
          obtain rfl := Option.some.inj h
          exact .noRoom hpos hfits (Bool.not_eq_true _ ▸ hdenied)
  · intro h
    cases h with
    | noWorkers h => rw [hindrance?, if_pos h]
    | tooMany hpos h => rw [hindrance?, if_neg (Nat.ne_of_gt hpos), if_pos h]
    | noRoom hpos hfits h =>
        rw [hindrance?, if_neg (Nat.ne_of_gt hpos), if_neg (Nat.not_lt.mpr hfits), if_neg]
        rw [h]
        exact Bool.false_ne_true
    | refused hroom h =>
        rw [hindrance?_of_room h.pos hroom, Resources.findSome?_refusal_eq_some_iff.mpr h]
        rfl

/-- Nothing keeps a pool of at least one worker from opening if the resources suffice. -/
theorem hindrance?_eq_none_iff : hindrance? res size = none ↔ 0 < size ∧ res.Suffice size := by
  constructor
  · intro h
    have hnone : ∀ d, ¬ Obstacle res size d := by
      intro d hd
      rw [hindrance?_eq_some_iff.mpr hd] at h
      cases h
    have hpos : 0 < size := Nat.pos_of_ne_zero fun hzero => hnone _ (.noWorkers hzero)
    have hfits : size * handleSize ≤ blockLimit :=
      Nat.not_lt.mp fun hmany => hnone _ (.tooMany hpos hmany)
    have hgranted : res.grants (size * handleSize) = true := by
      cases hg : res.grants (size * handleSize) with
      | true => rfl
      | false => exact absurd (.noRoom hpos hfits hg) (hnone _)
    rw [hindrance?_of_room hpos ⟨hfits, hgranted⟩, Option.map_eq_none_iff,
      List.findSome?_eq_none_iff] at h
    exact ⟨hpos, ⟨hfits, hgranted⟩, fun i hi => h i (List.mem_range.mpr hi)⟩
  · rintro ⟨hpos, hroom, hstarted⟩
    rw [hindrance?_of_room hpos hroom, Option.map_eq_none_iff, List.findSome?_eq_none_iff]
    exact fun i hi => hstarted i (List.mem_range.mp hi)

theorem Hindrance.ending_ne_value {α : Type} (d : Hindrance) (a : α) :
    d.ending ≠ .value a := by
  cases d <;> rintro ⟨⟩

theorem create_of_hindrance (h : hindrance? res size = some d) :
    create load size world res = d.ending := by
  rw [create, h]

theorem create_of_suffice (hpos : 0 < size) (h : res.Suffice size) :
    create load size world res
      = .value (ofSize size [] (load.record (.started size) world)) := by
  rw [create, hindrance?_eq_none_iff.mpr ⟨hpos, h⟩]

theorem create_eq_value (h : create load size world res = .value p) :
    0 < size ∧ p = ofSize size [] (load.record (.started size) world) := by
  cases hd : hindrance? res size with
  | some d =>
      rw [create_of_hindrance hd] at h
      exact absurd h (d.ending_ne_value p)
  | none =>
      obtain ⟨hpos, hres⟩ := hindrance?_eq_none_iff.mp hd
      rw [create_of_suffice hpos hres] at h
      exact ⟨hpos, (Ending.value.inj h).symm⟩

end Pool

end Liveness

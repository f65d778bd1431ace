import Liveness.Pool.Schedule

/-!
# Every interleaving has a schedule

A schedule gives one order of moves. However a pool comes to rest, some schedule brings it
to rest in that way. So what holds of a pool that has settled, under every schedule, holds
of every pool at rest.
-/

namespace Liveness

namespace Pool

variable {J W : Type} {load : Workload J W} {p q r : Pool J W}

theorem Reaches.cases_head (h : Reaches load p q) :
    p = q ∨ ∃ r, Step load p r ∧ Reaches load r q := by
  induction h with
  | refl => exact .inl rfl
  | next _ hstep ih =>
      rcases ih with rfl | ⟨r, hfirst, hrest⟩
      · exact .inr ⟨_, hstep, .refl⟩
      · exact .inr ⟨r, hfirst, .next hrest hstep⟩

/-- The thread that is asked first moves, if it can. -/
theorem next_of_move {thread : Nat} (hle : thread ≤ p.size)
    (h : move load thread p = some q) : next load thread p = some q := by
  have hmod : (thread + 0) % (p.size + 1) = thread :=
    Nat.mod_eq_of_lt (Nat.lt_succ_of_le hle)
  unfold next
  rw [List.range_succ_eq_map, List.findSome?_cons, hmod, h]

theorem exists_next (h : Step load p q) : ∃ thread, next load thread p = some q := by
  cases h with
  | worker i h =>
      have hlt : i < p.size := by
        by_cases hlt : i < p.size
        · exact hlt
        · rw [moveWorker_of_size_le (Nat.le_of_not_lt hlt)] at h
          cases h
      refine ⟨i, next_of_move (Nat.le_of_lt hlt) ?_⟩
      rw [move, if_pos hlt]
      exact h
  | owner h =>
      refine ⟨p.size, next_of_move (Nat.le_refl _) ?_⟩
      rw [move, if_neg (Nat.lt_irrefl _)]
      exact h

/-- A run depends only on the part of the schedule that is still to come. -/
theorem runFor_congr {σ τ : Schedule} {n : Nat} (h : ∀ m, n ≤ m → σ m = τ m) (moves : Nat)
    (p : Pool J W) : runFor load σ moves n p = runFor load τ moves n p := by
  induction moves generalizing n p with
  | zero => rfl
  | succ moves ih =>
      rw [runFor, runFor, h n (Nat.le_refl _)]
      cases next load (τ n) p with
      | none => rfl
      | some q => exact ih (fun m hm => h m (Nat.le_of_succ_le hm)) q

theorem runFor_of_quiet (hq : Quiet load q) (σ : Schedule) (moves n : Nat) :
    runFor load σ moves n q = q := by
  cases moves with
  | zero => rfl
  | succ moves =>
      rw [runFor]
      cases hn : next load (σ n) q with
      | none => rfl
      | some r => exact absurd (step_of_next hn) (hq r)

theorem exists_runFor {moves : Nat} (n : Nat) (hr : Reaches load p q) (hq : Quiet load q)
    (hm : effort load p < moves) : ∃ σ, runFor load σ moves n p = q := by
  induction moves generalizing p n with
  | zero => cases hm
  | succ moves ih =>
      rcases hr.cases_head with rfl | ⟨r, hstep, hrest⟩
      · exact ⟨.inTurn, runFor_of_quiet hq _ _ _⟩
      · have hless := effort_lt_of_step hstep
        obtain ⟨thread, hnext⟩ := exists_next hstep
        obtain ⟨τ, hτ⟩ := ih (n + 1) hrest (by omega)
        -- ask the thread of the first move first, and from then on as for the rest of the run
        refine ⟨fun m => if m = n then thread else τ m, ?_⟩
        rw [runFor, if_pos rfl, hnext]
        refine (runFor_congr (fun m hm => ?_) moves r).trans hτ
        exact if_neg (Nat.ne_of_gt hm)

/-- No run goes on for ever. -/
theorem not_forever (run : Nat → Pool J W) : ¬ ∀ k, Step load (run k) (run (k + 1)) := by
  intro h
  have hbound : ∀ k, effort load (run k) + k ≤ effort load (run 0) := by
    intro k
    induction k with
    | zero => exact Nat.le_refl _
    | succ k ih =>
        have := effort_lt_of_step (h k)
        omega
  have := hbound (effort load (run 0) + 1)
  omega

/-- However a pool comes to rest, some schedule makes it settle there. -/
theorem exists_settle (hr : Reaches load p q) (hq : Quiet load q) :
    ∃ σ, settle load σ p = q :=
  exists_runFor 0 hr hq (Nat.lt_succ_self _)

end Pool

end Liveness

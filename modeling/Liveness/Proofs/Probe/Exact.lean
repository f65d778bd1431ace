import Liveness.Proofs.Probe.Request
import Mathlib.Data.List.Nodup

/-!
# What the courses of all requests add up to

When each request below some number has run its course and no other was made, the history
is a mix of these courses. In whatever way they are mixed, it has as many requests as there
are courses, their answers are those of the courses, and the outcomes handed over are the
outcomes of the answers.
-/

namespace Liveness

open Event

/-! ## Taking a history apart -/

theorem flatMap_insert_perm {α : Type} {l : List Nat} {k : Nat} (f : Nat → List α)
    (a : List α) (hk : k ∈ l) (hl : l.Nodup) :
    (l.flatMap fun x => if x = k then a ++ f x else f x).Perm (a ++ l.flatMap f) := by
  induction l with
  | nil => cases hk
  | cons x l ih =>
      obtain ⟨hx, hl⟩ := List.nodup_cons.mp hl
      rw [List.flatMap_cons, List.flatMap_cons]
      by_cases hxk : x = k
      · subst hxk
        have hrest : (l.flatMap fun y => if y = x then a ++ f y else f y) = l.flatMap f := by
          refine List.flatMap_congr fun y hy => if_neg ?_
          rintro rfl
          exact hx hy
        rw [if_pos rfl, hrest, List.append_assoc]
      · have hkl := (List.mem_cons.mp hk).resolve_left fun heq => hxk heq.symm
        rw [if_neg hxk]
        refine ((ih hkl hl).append_left (f x)).trans ?_
        rw [← List.append_assoc, ← List.append_assoc]
        exact List.perm_append_comm.append_right _

/-- A view of the events about requests collects the views of the single requests. -/
theorem filterMap_perm_about {α : Type} {count : Nat} {es : List Event} (g : Event → Option α)
    (hg : ∀ e, e.seq? = none → g e = none)
    (hes : ∀ e ∈ es, ∀ seq, e.seq? = some seq → seq < count) :
    (es.filterMap g).Perm
      ((List.range count).flatMap fun seq => (about seq es).filterMap g) := by
  induction es with
  | nil => simp
  | cons e es ih =>
      have ih := ih fun e he => hes e (List.mem_cons_of_mem _ he)
      cases hseq : e.seq? with
      | none =>
          have habout : ∀ seq, about seq (e :: es) = about seq es := fun seq => by
            rw [about_cons, hseq, if_neg (by rintro ⟨⟩)]
          simp only [habout, List.filterMap_cons_none (hg e hseq)]
          exact ih
      | some k =>
          -- only the view of request `k` gains something, and the view of the whole gains the same
          have hk : k ∈ List.range count :=
            List.mem_range.mpr (hes e (List.mem_cons_self ..) k hseq)
          have habout : ∀ seq, (about seq (e :: es)).filterMap g
              = if seq = k then (g e).toList ++ (about seq es).filterMap g
                else (about seq es).filterMap g := by
            intro seq
            by_cases hsk : seq = k
            · rw [about_cons, hseq, if_pos (by rw [hsk]), if_pos hsk]
              cases hge : g e <;> simp [hge]
            · rw [about_cons, hseq, if_neg hsk, if_neg]
              exact fun heq => hsk (Option.some.inj heq).symm
          have hcons : (e :: es).filterMap g = (g e).toList ++ es.filterMap g := by
            cases hge : g e <;> simp [hge]
          simp only [habout]
          rw [hcons]
          exact (ih.append_left _).trans
            (flatMap_insert_perm _ _ hk List.nodup_range).symm

/-! ## Exact batches -/

namespace Batch

/-- Each request with a number below `count` has run its course, with the given answer, and
nothing was done for any other. -/
structure Exact (url : String) (count : Nat) (answer : Nat → Answer) (es : List Event) :
    Prop where
  course : ∀ seq < count, about seq es = course url seq (answer seq)
  others : ∀ seq, count ≤ seq → about seq es = []

variable {url : String} {count : Nat} {answer : Nat → Answer} {es : List Event}

/-- What is not about a request does not change what was done for requests. -/
theorem Exact.cons (h : Exact url count answer es) {e : Event} (he : e.seq? = none) :
    Exact url count answer (e :: es) := by
  have habout : ∀ seq, about seq (e :: es) = about seq es := fun seq => by
    rw [about_cons, he, if_neg (by rintro ⟨⟩)]
  refine ⟨fun seq hlt => ?_, fun seq hle => ?_⟩
  · rw [habout]
    exact h.course seq hlt
  · rw [habout]
    exact h.others seq hle

theorem Exact.seq_lt (h : Exact url count answer es) {e : Event} (he : e ∈ es) {seq : Nat}
    (hseq : e.seq? = some seq) : seq < count := by
  refine Nat.lt_of_not_le fun hle => ?_
  have hmem : e ∈ about seq es := List.mem_filter.mpr ⟨he, by simp [hseq]⟩
  rw [h.others seq hle] at hmem
  cases hmem

/-- What a view shows of the batch, it shows of the courses. -/
theorem Exact.filterMap_perm {α : Type} {f : Nat → List α} (h : Exact url count answer es)
    (g : Event → Option α) (hg : ∀ e, e.seq? = none → g e = none)
    (hf : ∀ seq, (Batch.course url seq (answer seq)).filterMap g = f seq) :
    (es.filterMap g).Perm ((List.range count).flatMap f) := by
  refine (filterMap_perm_about g hg fun e he _ hseq => h.seq_lt he hseq).trans ?_
  refine List.Perm.of_eq (List.flatMap_congr fun seq hseq => ?_)
  rw [h.course seq (List.mem_range.mp hseq)]
  exact hf seq

theorem urls_course (seq : Nat) (a : Answer) :
    Event.urls (Batch.course url seq a) = [url] := by
  cases a <;> rfl

theorem answers_course (seq : Nat) (a : Answer) :
    Event.answers (Batch.course url seq a) = [a] := by
  cases a <;> rfl

theorem deliveries_course (seq : Nat) (a : Answer) :
    Event.deliveries (Batch.course url seq a) = a.outcome?.toList := by
  cases a <;> rfl

/-- The batch makes `count` requests, and all for its url. -/
theorem Exact.urls (h : Exact url count answer es) :
    Event.urls es = List.replicate count url := by
  have hperm : (Event.urls es).Perm ((List.range count).map fun _ => url) := by
    rw [← List.flatMap_pure_eq_map]
    refine h.filterMap_perm _ ?_ fun seq => urls_course seq _
    rintro (_ | _ | _ | _) hseq
    · cases hseq
    · rfl
    · rfl
    · rfl
  rw [List.map_const', List.length_range] at hperm
  exact List.perm_replicate.mp hperm

/-- The answers of the batch are those of its requests. -/
theorem Exact.answers (h : Exact url count answer es) :
    (Event.answers es).Perm ((List.range count).map answer) := by
  rw [← List.flatMap_pure_eq_map]
  refine h.filterMap_perm _ ?_ fun seq => answers_course seq _
  rintro (_ | _ | _ | _) hseq
  · rfl
  · cases hseq
  · rfl
  · rfl

theorem Exact.deliveries_perm (h : Exact url count answer es) :
    (Event.deliveries es).Perm
      ((List.range count).filterMap fun seq => (answer seq).outcome?) := by
  rw [List.filterMap_eq_flatMap_toList]
  refine h.filterMap_perm _ ?_ fun seq => deliveries_course seq _
  rintro (_ | _ | _ | _) hseq
  · rfl
  · rfl
  · rfl
  · cases hseq

/-- The outcomes handed over are those of the answers. -/
theorem Exact.deliveries (h : Exact url count answer es) :
    (Event.deliveries es).Perm ((Event.answers es).filterMap Answer.outcome?) := by
  refine h.deliveries_perm.trans ?_
  rw [← Function.comp_def, ← List.filterMap_map]
  exact (h.answers.filterMap _).symm

theorem Exact.mem_deliveries (h : Exact url count answer es) {o : Outcome} :
    o ∈ Event.deliveries es ↔ ∃ seq < count, (answer seq).outcome? = some o := by
  rw [h.deliveries_perm.mem_iff, List.mem_filterMap]
  simp only [List.mem_range]

theorem length_outcomes (as : List Answer) :
    (as.filterMap Answer.outcome?).length + as.countP Answer.isPanicked = as.length := by
  induction as with
  | nil => rfl
  | cons a as ih =>
      cases a with
      | returned result =>
          simp only [List.filterMap_cons, Answer.outcome?, List.length_cons, List.countP_cons,
            Answer.isPanicked]
          simp only [Bool.false_eq_true, if_false]
          omega
      | panicked message =>
          simp only [List.filterMap_cons, Answer.outcome?, List.length_cons, List.countP_cons,
            Answer.isPanicked]
          simp only [if_true]
          omega

/-- Each call of the batch returned, and its outcome was handed over, or panicked. -/
theorem Exact.length_deliveries (h : Exact url count answer es) :
    (Event.deliveries es).length + (Event.answers es).countP Answer.isPanicked = count := by
  rw [h.deliveries.length_eq, length_outcomes, h.answers.length_eq, List.length_map,
    List.length_range]

end Batch

end Liveness

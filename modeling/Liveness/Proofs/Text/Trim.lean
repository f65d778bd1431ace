import Mathlib.Data.List.DropRight
import Liveness.Text.Blank

/-!
# White space at the ends of a text

A text is what is left of it without the white space at its two ends, with white space on either
side. Nothing is left exactly if all of it is white space: the removal at the start stops before a
character that the removal at the end does not pass. And white space that is put around a text
without any is removed again.
-/

namespace Liveness

variable {cs w w' : List Char}

/-- Nothing is left of a text without the white space at its ends if it has nothing else. -/
theorem trim_eq_nil_iff : trim cs = [] ↔ ∀ c ∈ cs, isBlank c = true := by
  rw [trim, trimEnd, trimStart, List.reverse_eq_nil_iff, List.dropWhile_eq_nil_iff]
  constructor
  · intro hrest
    rw [← List.dropWhile_eq_nil_iff]
    by_contra hne
    have hhead := List.head_dropWhile_not isBlank hne
    rw [hrest _ (List.mem_reverse.mpr (List.head_mem hne))] at hhead
    cases hhead
  · intro hall c hc
    exact hall c ((List.dropWhile_suffix isBlank).subset (List.mem_reverse.mp hc))

theorem exists_eq_append_trim (cs : List Char) :
    ∃ w w', cs = w ++ trim cs ++ w' ∧ (∀ c ∈ w, isBlank c = true)
      ∧ ∀ c ∈ w', isBlank c = true := by
  have hend : trim cs ++ (trimStart cs).rtakeWhile isBlank = trimStart cs :=
    List.rdropWhile_append_rtakeWhile
  refine ⟨cs.takeWhile isBlank, (trimStart cs).rtakeWhile isBlank, ?_, ?_, ?_⟩
  · rw [List.append_assoc, hend]
    exact List.takeWhile_append_dropWhile.symm
  · exact fun c hc => List.mem_takeWhile_imp hc
  · exact fun c hc => List.mem_rtakeWhile_imp hc

theorem dropWhile_of_not_isBlank (h : ∀ c ∈ cs, isBlank c = false) :
    cs.dropWhile isBlank = cs := by
  cases cs with
  | nil => rfl
  | cons c cs => exact trimStart_of_not_isBlank (h c (List.mem_cons_self ..))

/-- White space around a text that has none is removed. -/
theorem trim_append (hw : ∀ c ∈ w, isBlank c = true) (hw' : ∀ c ∈ w', isBlank c = true)
    (hcs : ∀ c ∈ cs, isBlank c = false) : trim (w ++ cs ++ w') = cs := by
  cases cs with
  | nil =>
      rw [List.append_nil, trim_eq_nil_iff]
      intro c hc
      rcases List.mem_append.mp hc with hc | hc
      · exact hw c hc
      · exact hw' c hc
  | cons c cs =>
      have hstart : trimStart (w ++ c :: cs ++ w') = c :: cs ++ w' := by
        rw [trimStart, List.append_assoc, List.dropWhile_append_of_pos hw]
        exact trimStart_of_not_isBlank (hcs c (List.mem_cons_self ..))
      have hrest : (c :: cs).reverse.dropWhile isBlank = (c :: cs).reverse :=
        dropWhile_of_not_isBlank fun d hd => hcs d (List.mem_reverse.mp hd)
      rw [trim, hstart, trimEnd, List.reverse_append, List.dropWhile_append_of_pos
        fun d hd => hw' d (List.mem_reverse.mp hd), hrest, List.reverse_reverse]

end Liveness

import Mathlib.Data.List.Basic
import Mathlib.Tactic.SplitIfs
import Liveness.Proofs.Text.Numeral
import Liveness.Text.Quoted

/-!
# Quoted text told apart

Whatever follows a quoted text, it can be told where it ends and what was quoted. A character is
written in one of three ways, and the way shows in the text: by itself, if it is not the backslash
that begins the other two; by a letter after a backslash; or by its number, which ends at a brace.
No way begins with the quote, so the first quote that stands where a character may begin is the end.

This is said of ways to write anything, and it carries over from the parts to what is put together
from them: pairs, sequences up to a stop, and what stands in a frame.
-/

namespace Liveness

/-! ## Texts that end themselves -/

section SelfDelimiting

variable {α β : Type} {write : α → List Char} {stop : Char}

/-- At the start of any text it can be told what was written there and where that ends. -/
def SelfDelimiting (write : α → List Char) : Prop :=
  ∀ a b u v, write a ++ u = write b ++ v → a = b ∧ u = v

theorem takeWhile_append_stop {cs : List Char} (h : stop ∉ cs) (rest : List Char) :
    (cs ++ stop :: rest).takeWhile (· ≠ stop) = cs := by
  have hcs : ∀ c ∈ cs, decide (c ≠ stop) = true := fun c hc =>
    decide_eq_true fun heq => h (heq ▸ hc)
  rw [List.takeWhile_append_of_pos hcs, List.takeWhile_cons_of_neg (by simp), List.append_nil]

/-- What never holds a character is ended by it. -/
theorem selfDelimiting_stop (hinj : Function.Injective write) (hstop : ∀ a, stop ∉ write a) :
    SelfDelimiting fun a => write a ++ [stop] := by
  intro a b u v h
  simp only [List.append_assoc, List.singleton_append] at h
  have hsame : write a = write b := by
    have htake := congrArg (List.takeWhile (· ≠ stop)) h
    rwa [takeWhile_append_stop (hstop a), takeWhile_append_stop (hstop b)] at htake
  rw [hsame] at h
  exact ⟨hinj hsame, (List.cons.inj (List.append_cancel_left h)).2⟩

theorem SelfDelimiting.injective (h : SelfDelimiting write) : Function.Injective write :=
  fun a b heq => (h a b [] [] (by rw [heq])).1

theorem SelfDelimiting.comp (h : SelfDelimiting write) {f : β → α} (hf : Function.Injective f) :
    SelfDelimiting fun b => write (f b) := by
  intro a b u v heq
  obtain ⟨hsame, hrest⟩ := h _ _ u v heq
  exact ⟨hf hsame, hrest⟩

theorem SelfDelimiting.frame (h : SelfDelimiting write) (front back : List Char) :
    SelfDelimiting fun a => front ++ write a ++ back := by
  intro a b u v heq
  simp only [List.append_assoc] at heq
  obtain ⟨rfl, hrest⟩ := h a b _ _ (List.append_cancel_left heq)
  exact ⟨rfl, List.append_cancel_left hrest⟩

theorem SelfDelimiting.pair (h : SelfDelimiting write) {write' : β → List Char}
    (h' : SelfDelimiting write') : SelfDelimiting fun p : α × β => write p.1 ++ write' p.2 := by
  rintro ⟨a, a'⟩ ⟨b, b'⟩ u v heq
  simp only [List.append_assoc] at heq
  obtain ⟨rfl, hrest⟩ := h a b _ _ heq
  obtain ⟨rfl, hend⟩ := h' a' b' u v hrest
  exact ⟨rfl, hend⟩

/-- A sequence is ended by a character that begins none of its items. -/
theorem SelfDelimiting.sequence (h : SelfDelimiting write)
    (hstop : ∀ a u v, write a ++ u ≠ stop :: v) :
    SelfDelimiting fun as : List α => as.flatMap write ++ [stop] := by
  intro as
  induction as with
  | nil =>
      intro bs u v heq
      cases bs with
      | nil => exact ⟨rfl, (List.cons.inj heq).2⟩
      | cons b bs =>
          simp only [List.flatMap_cons, List.append_assoc] at heq
          exact absurd heq.symm (hstop b _ _)
  | cons a as ih =>
      intro bs u v heq
      cases bs with
      | nil =>
          simp only [List.flatMap_cons, List.append_assoc] at heq
          exact absurd heq (hstop a _ _)
      | cons b bs =>
          simp only [List.flatMap_cons, List.append_assoc] at heq
          obtain ⟨rfl, hrest⟩ := h a b _ _ heq
          obtain ⟨rfl, hend⟩ := ih bs u v (by simpa only [List.append_assoc] using hrest)
          exact ⟨rfl, hend⟩

end SelfDelimiting

/-! ## What can be seen -/

theorem isInvisible_of_range {c : Char} (h : 0x20 ≤ c.toNat ∧ c.toNat ≤ 0x7e) :
    isInvisible c = false := if_pos h

theorem isInvisible_digitChar {d : Nat} (h : d < 16) :
    isInvisible (Numeral.digitChar d) = false := by
  have hall : ∀ d : Fin 16,
      0x20 ≤ (Numeral.digitChar d).toNat ∧ (Numeral.digitChar d).toNat ≤ 0x7e := by decide
  exact isInvisible_of_range (hall ⟨d, h⟩)

namespace Quoted

/-! ## One character -/

/-- The characters that are written by a letter, and the letter. -/
def letters : List (Char × Char) :=
  [('\x00', '0'), ('\t', 't'), ('\r', 'r'), ('\n', 'n'), ('"', '"'), ('\\', '\\')]

/-- The ways to write a character. -/
inductive Escaped (c : Char) : List Char → Prop where
  | plain (hquote : c ≠ '"') (hbackslash : c ≠ '\\') (hvisible : isInvisible c = false) :
      Escaped c [c]
  | letter {l : Char} (h : (c, l) ∈ letters) : Escaped c ['\\', l]
  | numbered : Escaped c (codePoint c)

theorem escaped_escape (c : Char) : Escaped c (escape c) := by
  unfold escape
  split_ifs with hnull htab hreturn hfeed hquote hbackslash hinvisible
  · subst hnull; exact .letter (by decide)
  · subst htab; exact .letter (by decide)
  · subst hreturn; exact .letter (by decide)
  · subst hfeed; exact .letter (by decide)
  · subst hquote; exact .letter (by decide)
  · subst hbackslash; exact .letter (by decide)
  · exact .numbered
  · exact .plain hquote hbackslash (Bool.eq_false_iff.mpr hinvisible)

variable {a b c l : Char} {s t u v : List Char}

theorem letters_unique (ha : (a, l) ∈ letters) (hb : (b, l) ∈ letters) : a = b := by
  have hall : ∀ p ∈ letters, ∀ q ∈ letters, p.2 = q.2 → p.1 = q.1 := by decide
  exact hall _ ha _ hb rfl

theorem ne_u_of_mem_letters (h : (c, l) ∈ letters) : l ≠ 'u' := by
  have hall : ∀ p ∈ letters, p.2 ≠ 'u' := by decide
  exact hall _ h

theorem selfDelimiting_codePoint : SelfDelimiting codePoint := by
  have hstop : ∀ n, '\x7d' ∉ Numeral.hexChars n := by
    intro n hmem
    obtain ⟨d, hd, heq⟩ := List.mem_map.mp hmem
    have hall : ∀ d : Fin 16, Numeral.digitChar d ≠ '\x7d' := by decide
    exact hall ⟨d, Numeral.lt_of_mem_digitsIn (by decide) hd⟩ heq
  have hinj : Function.Injective Numeral.hexChars := fun _ _ =>
    Numeral.numeral_inj (by decide) (by decide)
  have hcode : Function.Injective Char.toNat := fun _ _ => Char.toNat_inj.mp
  have hnumber := (selfDelimiting_stop hinj hstop).comp hcode
  intro a b u v h
  simp only [codePoint, List.append_assoc] at h
  refine hnumber a b u v ?_
  simpa only [List.append_assoc] using List.append_cancel_left h

theorem Escaped.cancel (ha : Escaped a s) (hb : Escaped b t) (h : s ++ u = t ++ v) :
    a = b ∧ u = v := by
  cases ha with
  | plain _ hbackslash _ =>
      cases hb with
      | plain _ _ _ => exact List.cons.inj h
      | letter _ => exact absurd (List.cons.inj h).1 hbackslash
      | numbered => exact absurd (List.cons.inj h).1 hbackslash
  | letter hl =>
      cases hb with
      | plain _ hbackslash _ => exact absurd (List.cons.inj h).1.symm hbackslash
      | letter hl' =>
          obtain ⟨rfl, hrest⟩ := List.cons.inj (List.cons.inj h).2
          exact ⟨letters_unique hl hl', hrest⟩
      | numbered =>
          exact absurd (List.cons.inj (List.cons.inj h).2).1 (ne_u_of_mem_letters hl)
  | numbered =>
      cases hb with
      | plain _ hbackslash _ => exact absurd (List.cons.inj h).1.symm hbackslash
      | letter hl =>
          exact absurd (List.cons.inj (List.cons.inj h).2).1.symm (ne_u_of_mem_letters hl)
      | numbered => exact selfDelimiting_codePoint a b u v h

theorem Escaped.ne_quote (h : Escaped c s) (u v : List Char) : s ++ u ≠ '"' :: v := by
  intro heq
  cases h with
  | plain hquote _ _ => exact hquote (List.cons.inj heq).1
  | letter _ => exact absurd (List.cons.inj heq).1 (by decide)
  | numbered => exact absurd (List.cons.inj heq).1 (by decide)

theorem Escaped.visible (h : Escaped c s) : ∀ e ∈ s, isInvisible e = false := by
  have hbackslash : isInvisible '\\' = false := by decide
  cases h with
  | plain _ _ hvisible => exact List.forall_mem_singleton.mpr hvisible
  | letter hl =>
      have hall : ∀ p ∈ letters, isInvisible p.2 = false := by decide
      exact List.forall_mem_cons.mpr ⟨hbackslash, List.forall_mem_singleton.mpr (hall _ hl)⟩
  | numbered =>
      intro e he
      simp only [codePoint, List.mem_append, List.mem_cons, List.not_mem_nil, or_false] at he
      rcases he with (((rfl | rfl | rfl) | hdigit) | rfl)
      · exact hbackslash
      · decide
      · decide
      · obtain ⟨d, hd, rfl⟩ := List.mem_map.mp hdigit
        exact isInvisible_digitChar (Numeral.lt_of_mem_digitsIn (by decide) hd)
      · decide

/-! ## Whole texts -/

theorem selfDelimiting_escape : SelfDelimiting escape := fun a b _ _ =>
  (escaped_escape a).cancel (escaped_escape b)

theorem selfDelimiting_chars : SelfDelimiting chars := by
  have hsequence : SelfDelimiting fun cs : List Char => cs.flatMap escape ++ ['"'] :=
    selfDelimiting_escape.sequence fun c => (escaped_escape c).ne_quote
  intro as bs u v h
  exact hsequence as bs u v (List.cons.inj h).2

/-- Everything in a quoted text can be seen, whatever was quoted. -/
theorem visible_of_mem_chars {cs : List Char} {e : Char} (he : e ∈ chars cs) :
    isInvisible e = false := by
  simp only [chars, List.mem_cons, List.mem_append, List.mem_flatMap, List.not_mem_nil,
    or_false] at he
  rcases he with rfl | ⟨c, -, he⟩ | rfl
  · decide
  · exact (escaped_escape c).visible e he
  · decide

end Quoted

theorem toList_quote (s : String) : (quote s).toList = Quoted.chars s.toList :=
  String.toList_ofList

theorem selfDelimiting_quote : SelfDelimiting fun s => (quote s).toList := by
  simp only [toList_quote]
  exact Quoted.selfDelimiting_chars.comp fun _ _ => String.toList_injective

end Liveness

import Liveness.Proofs.Json.Lexing
import Liveness.Proofs.Text.Grammar

/-!
# Numbers read back

A number has no sign of its end: it is as long as its characters allow, and the character after it
is read again. So its text is first read up to its end, part by part, and then the number is given
where something else follows. What is read of a text is its literal. It counts as a whole number if
the text is nothing but digits whose value fits 64 bits, for a minus, a fraction or a power shows in
the literal.
-/

namespace Liveness

namespace Json

open Numeral

namespace Token

variable {c : Char} {cs rest literal : List Char} {l : Literal} {n v : Nat}

/-! ## The end of a number -/

/-- A number ends before the character. -/
structure EndsNumber (c : Char) : Prop where
  digit : digit? c = none
  point : c ≠ '.'
  power : c ≠ 'e' ∧ c ≠ 'E'

/-- A number ends before the text. -/
def AtEnd (rest : List Char) : Prop := ∀ c ∈ rest.head?, EndsNumber c

theorem endsNumber_comma : EndsNumber ',' := ⟨by decide, by decide, by decide, by decide⟩

theorem endsNumber_closeList : EndsNumber ']' := ⟨by decide, by decide, by decide, by decide⟩

theorem endsNumber_closeObject : EndsNumber '\x7d' :=
  ⟨by decide, by decide, by decide, by decide⟩

theorem atEnd_cons (h : EndsNumber c) (rest : List Char) : AtEnd (c :: rest) := by
  rintro _ ⟨⟩
  exact h

theorem atEnd_blank (hblank : IsBlank cs) (h : AtEnd rest) : AtEnd (cs ++ rest) := by
  cases cs with
  | nil => exact h
  | cons c cs =>
      refine atEnd_cons ?_ (cs ++ rest)
      rcases hblank c (List.mem_cons_self ..) with rfl | rfl | rfl | rfl <;>
        exact ⟨by decide, by decide, by decide, by decide⟩

/-- A number may end here. -/
def Phase.IsFinal (phase : Phase) : Prop :=
  phase = .zero ∨ phase = .whole ∨ phase = .decimals ∨ phase = .powerDigits

theorem stepTail_of_endsNumber (h : EndsNumber c) (l : Literal) (pointAllowed : Bool) :
    stepTail l pointAllowed c = stepPastNumber l c := by
  rw [stepTail, if_neg fun hpoint => h.point hpoint.1, if_neg]
  rintro (he | he)
  · exact h.power.1 he
  · exact h.power.2 he

theorem lexFrom_at_end {phase : Phase} (hphase : phase.IsFinal) (l : Literal) (h : AtEnd rest) :
    lexFrom (.number phase l) rest = .number l.number :: lexFrom .gap rest := by
  cases rest with
  | nil => rcases hphase with rfl | rfl | rfl | rfl <;> rfl
  | cons c rest =>
      have hc := h c rfl
      have hstep : step c (.number phase l) = stepPastNumber l c := by
        rcases hphase with rfl | rfl | rfl | rfl <;>
          simp only [step, stepNumber, hc.digit, stepTail_of_endsNumber hc, Option.isSome_none,
            Bool.false_eq_true, if_false]
      rw [lexFrom, hstep]
      rfl

/-! ## Digits -/

def digitValue (c : Char) : Nat := c.toNat - 48

theorem eq_digitChar_of_digit? {d : Nat} (h : digit? c = some d) : d < 10 ∧ c = digitChar d := by
  have hrange := isDigit_iff.mp (isDigit_of_digit? h)
  obtain rfl : c.toNat - 48 = d :=
    Option.some.inj ((digit?_of_isDigit (isDigit_of_digit? h)).symm.trans h)
  refine ⟨by omega, ?_⟩
  rw [digitChar, if_pos (by omega), Nat.add_sub_of_le hrange.1, Char.ofNat_toNat]

/-- Digits are read one after the other into the list of digits that a literal is made with. -/
theorem reads_digits (phase : Phase) (made : List Nat → Literal)
    (hstep : ∀ ds c d, digit? c = some d →
      step c (.number phase (made ds)) = ([], .number phase (made (ds ++ [d]))))
    (h : ∀ c ∈ cs, c.isDigit = true) (ds : List Nat) :
    Reads (.number phase (made ds)) cs [] (.number phase (made (ds ++ cs.map digitValue))) := by
  induction cs generalizing ds with
  | nil =>
      rw [List.map_nil, List.append_nil]
      exact .nil _
  | cons c cs ih =>
      obtain ⟨hc, hcs⟩ := List.forall_mem_cons.mp h
      have hmore := ih hcs (ds ++ [digitValue c])
      rw [List.append_assoc] at hmore
      exact .cons (hstep ds c _ (digit?_of_isDigit hc)) hmore

/-! ## The parts of a number -/

theorem stepGap_of_digit? {d : Nat} (h : digit? c = some d) :
    stepGap c
      = ([], .number (if d = 0 then .zero else .whole) { noDigits with whole := [d] }) := by
  have hall : ∀ d : Fin 10, stepGap (digitChar d)
      = ([], .number (if d.val = 0 then .zero else .whole) { noDigits with whole := [d.val] }) := by
    decide
  obtain ⟨hlt, rfl⟩ := eq_digitChar_of_digit? h
  exact hall ⟨d, hlt⟩

theorem reads_whole {a : State} {l : Literal} (hwhole : IsWhole cs)
    (hfirst : ∀ c d, digit? c = some d → step c a
      = ([], .number (if d = 0 then .zero else .whole) { l with whole := [d] })) :
    ∃ phase, (phase = .zero ∨ phase = .whole)
      ∧ Reads a cs [] (.number phase { l with whole := cs.map digitValue }) := by
  cases hwhole with
  | zero => exact ⟨.zero, .inl rfl, reads_step (hfirst '0' 0 rfl)⟩
  | @digits c cs hne h =>
      obtain ⟨hc, hcs⟩ := List.forall_mem_cons.mp h.2
      have hpos : digitValue c ≠ 0 := by
        intro hzero
        have hrange := isDigit_iff.mp hc
        rw [digitValue] at hzero
        have hcode : c.toNat = 48 := by omega
        exact hne (Char.toNat_inj.mp hcode)
      have hstep := hfirst c _ (digit?_of_isDigit hc)
      rw [← digitValue, if_neg hpos] at hstep
      have hmore := reads_digits .whole (fun ds => { l with whole := ds })
        (fun ds c d hd => by simp only [step, stepNumber, hd]) hcs [digitValue c]
      exact ⟨.whole, .inr rfl, .cons hstep hmore⟩

theorem reads_minus_whole {minus whole : List Char} (hminus : minus = [] ∨ minus = ['-'])
    (hwhole : IsWhole whole) : ∃ phase, (phase = .zero ∨ phase = .whole)
      ∧ Reads .gap (minus ++ whole) []
        (.number phase ⟨!minus.isEmpty, whole.map digitValue, [], none⟩) := by
  rcases hminus with rfl | rfl
  · exact reads_whole (a := .gap) (l := noDigits) hwhole fun _ _ => stepGap_of_digit?
  · let l : Literal := { noDigits with negative := true }
    have hsign : step '-' .gap = ([], .number .sign l) := rfl
    have hfirst : ∀ c d, digit? c = some d → step c (.number .sign l)
        = ([], .number (if d = 0 then .zero else .whole) { l with whole := [d] }) :=
      fun c d hd => by simp only [step, stepNumber, hd]
    obtain ⟨phase, hphase, hreads⟩ := reads_whole hwhole hfirst
    exact ⟨phase, hphase, .cons hsign hreads⟩

theorem reads_fraction {phase : Phase} (hphase : phase = .zero ∨ phase = .whole)
    (h : IsFraction cs) (l : Literal) :
    ∃ phase', (phase' = .zero ∨ phase' = .whole ∨ phase' = .decimals)
      ∧ Reads (.number phase l) cs []
        (.number phase' { l with decimals := l.decimals ++ cs.tail.map digitValue }) := by
  cases h with
  | none =>
      refine ⟨phase, hphase.imp_right .inl, ?_⟩
      rw [List.tail_nil, List.map_nil, List.append_nil]
      exact .nil _
  | @some cs h =>
      obtain ⟨c, cs, rfl⟩ := List.exists_cons_of_ne_nil h.1
      obtain ⟨hc, hcs⟩ := List.forall_mem_cons.mp h.2
      have hpoint : step '.' (.number phase l) = ([], .number .point l) := by
        rcases hphase with rfl | rfl <;> rfl
      have hfirst : step c (.number .point l)
          = ([], .number .decimals { l with decimals := l.decimals ++ [digitValue c] }) := by
        simp only [step, stepNumber, digit?_of_isDigit hc, digitValue]
        rfl
      have hmore := reads_digits .decimals (fun ds => { l with decimals := l.decimals ++ ds })
        (fun ds c d hd => by
          simp only [step, stepNumber, hd, Literal.addDecimal, List.append_assoc])
        hcs [digitValue c]
      exact ⟨.decimals, .inr (.inr rfl), .cons hpoint (.cons hfirst hmore)⟩

theorem reads_power {phase : Phase} (hphase : phase = .zero ∨ phase = .whole ∨ phase = .decimals)
    (h : IsPower cs) (l : Literal) (hl : l.power = none) :
    ∃ phase' power, phase'.IsFinal
      ∧ Reads (.number phase l) cs [] (.number phase' { l with power := power })
      ∧ (power = none ↔ cs = []) := by
  cases h with
  | none =>
      refine ⟨phase, none, ?_, ?_, by simp⟩
      · rcases hphase with h | h | h <;> simp [Phase.IsFinal, h]
      · rw [← hl]
        exact .nil _
  | @some e sign cs he hsign h =>
      obtain ⟨c, cs, rfl⟩ := List.exists_cons_of_ne_nil h.1
      obtain ⟨hc, hcs⟩ := List.forall_mem_cons.mp h.2
      have hd := digit?_of_isDigit hc
      have hletter : step e (.number phase l) = ([], .number .power l) := by
        rcases hphase with rfl | rfl | rfl <;> rcases he with rfl | rfl <;> rfl
      -- the first digit may come with a sign or without
      have hfirst : ∃ down, Reads (.number .power l) (sign ++ [c]) []
          (.number .powerDigits { l with power := some (down, [digitValue c]) }) := by
        rcases hsign with rfl | rfl | rfl
        · refine ⟨false, reads_step ?_⟩
          have hplus : c ≠ '+' := by rintro rfl; cases hd
          have hminus : c ≠ '-' := by rintro rfl; cases hd
          simp only [step, stepNumber, if_neg hplus, if_neg hminus, hd, Literal.addPowerDigit, hl,
            digitValue]
        · refine ⟨false, .cons rfl (reads_step ?_)⟩
          simp only [step, stepNumber, hd, Literal.addPowerDigit, List.nil_append, digitValue]
        · refine ⟨true, .cons rfl (reads_step ?_)⟩
          simp only [step, stepNumber, hd, Literal.addPowerDigit, List.nil_append, digitValue]
      obtain ⟨down, hfirst⟩ := hfirst
      have hmore := reads_digits .powerDigits (fun ds => { l with power := some (down, ds) })
        (fun ds c d hd => by simp only [step, stepNumber, hd, Literal.addPowerDigit])
        hcs [digitValue c]
      refine ⟨.powerDigits, some (down, [digitValue c] ++ cs.map digitValue),
        .inr (.inr (.inr rfl)), ?_, by simp⟩
      have hall := hfirst.append hmore
      rw [List.append_assoc] at hall
      exact .cons hletter hall

/-! ## Whole numbers -/

theorem readWord_eq_nil_iff (hv : v ≤ wordLimit) :
    readWord v (cs.map digitValue) = (n, []) ↔ Nat.ofDigitChars 10 cs v = n ∧ n ≤ wordLimit := by
  induction cs generalizing v with
  | nil =>
      rw [List.map_nil, readWord, Nat.ofDigitChars_nil, Prod.mk.injEq]
      constructor
      · rintro ⟨rfl, -⟩
        exact ⟨rfl, hv⟩
      · exact fun h => ⟨h.1, rfl⟩
  | cons c cs ih =>
      have hzero : '0'.toNat = 48 := rfl
      rw [List.map_cons, readWord, Nat.ofDigitChars_cons, hzero, ← digitValue]
      split
      · rename_i hlarge
        refine ⟨by rintro ⟨⟩, ?_⟩
        rintro ⟨rfl, hfit⟩
        have hle := le_ofDigitChars cs (10 * v + digitValue c)
        omega
      · rename_i hsmall
        exact ih (Nat.not_lt.mp hsmall)

theorem real_ne_natural (l : Literal) (n : Nat) : l.real ≠ .natural n := by
  unfold Literal.real
  dsimp only
  split
  · rintro ⟨⟩
  · split
    · rintro ⟨⟩
    · split <;> rintro ⟨⟩

theorem number_eq_natural_iff : l.number = .natural n ↔
    l.negative = false ∧ l.decimals = [] ∧ l.power = none ∧ readWord 0 l.whole = (n, []) := by
  unfold Literal.number
  split
  · rename_i m hdecimals hpower hread
    rw [hdecimals, hpower, hread, Prod.mk.injEq]
    cases l.negative with
    | false => simp
    | true =>
        refine ⟨fun h => ?_, by rintro ⟨⟨⟩, -⟩⟩
        split at h
        · rename_i hneg
          cases hneg
        · split at h <;> cases h
  · rename_i hother
    refine ⟨fun h => absurd h (real_ne_natural l n), ?_⟩
    rintro ⟨-, hdecimals, hpower, hread⟩
    exact absurd hread (hother n hdecimals hpower)

/-- A number of which nothing but digits is written is the numeral of its value, and no other
number is a numeral. -/
theorem isNumeral_parts_iff {minus whole fraction power : List Char}
    (hminus : minus = [] ∨ minus = ['-']) (hwhole : IsWhole whole)
    (hfraction : IsFraction fraction) (hpower : IsPower power) :
    IsNumeral (minus ++ (whole ++ (fraction ++ power))) n ↔
      minus = [] ∧ fraction = [] ∧ power = [] ∧ Nat.ofDigitChars 10 whole 0 = n := by
  constructor
  · intro h
    have hdigits := h.digits
    simp only [List.forall_mem_append] at hdigits
    obtain ⟨hm, -, hf, hp⟩ := hdigits
    obtain rfl : minus = [] := by
      rcases hminus with rfl | rfl
      · rfl
      · exact absurd (hm '-' (List.mem_cons_self ..)) (by decide)
    obtain rfl : fraction = [] := by
      cases hfraction with
      | none => rfl
      | some => exact absurd (hf '.' (List.mem_cons_self ..)) (by decide)
    obtain rfl : power = [] := by
      cases hpower with
      | none => rfl
      | some he =>
          have hletter := hp _ (List.mem_cons_self ..)
          rcases he with rfl | rfl <;> exact absurd hletter (by decide)
    refine ⟨rfl, rfl, rfl, ?_⟩
    have hvalue := h.value
    rwa [List.nil_append, List.append_nil, List.append_nil] at hvalue
  · rintro ⟨rfl, rfl, rfl, hvalue⟩
    rw [List.nil_append, List.append_nil, List.append_nil]
    exact ⟨hwhole.isDigits.1, hwhole.isDigits.2, hvalue⟩

/-- The text of a number is read as one literal, which is a whole number if the text is a numeral
that fits 64 bits. -/
theorem reads_number (h : IsNumber literal) : ∃ phase l, phase.IsFinal
    ∧ Reads .gap literal [] (.number phase l)
    ∧ ∀ n, l.number = .natural n ↔ IsNumeral literal n ∧ n ≤ wordLimit := by
  obtain ⟨hminus, hwhole, hfraction, hpower⟩ := h
  rename_i minus whole fraction power
  let start : Literal := ⟨!minus.isEmpty, whole.map digitValue, [], none⟩
  let middle : Literal := { start with decimals := fraction.tail.map digitValue }
  obtain ⟨_, hphase, hfirst⟩ := reads_minus_whole hminus hwhole
  obtain ⟨_, hphase, hmore⟩ := reads_fraction hphase hfraction start
  obtain ⟨phase, read, hphase, hlast, hread⟩ := reads_power hphase hpower middle rfl
  refine ⟨phase, { middle with power := read }, hphase, ?_, fun n => ?_⟩
  · have hall := hfirst.append (hmore.append hlast)
    rwa [List.append_assoc] at hall
  · rw [number_eq_natural_iff, readWord_eq_nil_iff (Nat.zero_le _),
      isNumeral_parts_iff hminus hwhole hfraction hpower, hread]
    have hsign : (!minus.isEmpty) = false ↔ minus = [] := by simp
    have hpoint : fraction.tail.map digitValue = [] ↔ fraction = [] := by
      cases hfraction with
      | none => simp
      | some h => simp [h.1]
    rw [hsign, hpoint]
    constructor
    · rintro ⟨hm, hf, hp, hvalue, hfit⟩
      exact ⟨⟨hm, hf, hp, hvalue⟩, hfit⟩
    · rintro ⟨⟨hm, hf, hp, hvalue⟩, hfit⟩
      exact ⟨hm, hf, hp, hvalue, hfit⟩

/-- A number is read up to its end. -/
theorem lexFrom_number (h : IsNumber literal) : ∃ number : Number,
    (∀ rest, AtEnd rest → lexFrom .gap (literal ++ rest) = .number number :: lexFrom .gap rest)
    ∧ ∀ n, number = .natural n ↔ IsNumeral literal n ∧ n ≤ wordLimit := by
  obtain ⟨phase, l, hphase, hreads, hnatural⟩ := reads_number h
  refine ⟨l.number, fun rest hrest => ?_, hnatural⟩
  rw [hreads, List.nil_append, lexFrom_at_end hphase l hrest]

/-! ## Decimal text -/

theorem isNumber_of_whole (h : IsWhole cs) : IsNumber cs := by
  have hnumber := IsNumber.mk (.inl rfl) h .none .none
  rwa [List.nil_append, List.append_nil, List.append_nil] at hnumber

theorem isWhole_decimalChars (n : Nat) : IsWhole (decimalChars n) := by
  have hdigits : IsDigits (decimalChars n) :=
    ⟨(isNumeral_decimalChars n).ne_nil, (isNumeral_decimalChars n).digits⟩
  by_cases hn : n = 0
  · subst hn
    rw [decimalChars, digitsIn_of_lt (by decide)]
    exact .zero
  · obtain ⟨d, ds, hds, hd⟩ := exists_digitsIn_eq_cons (by decide : 2 ≤ 10) hn
    have hlt : d < 10 := lt_of_mem_digitsIn (by decide) (hds ▸ List.mem_cons_self ..)
    rw [decimalChars, hds, List.map_cons] at hdigits ⊢
    refine .digits (fun hzero => hd ?_) hdigits
    exact digitChar_inj (by omega) (by decide) hzero

/-- A decimal numeral is read as its number. -/
theorem lexFrom_numeral (hn : n ≤ wordLimit) (hc : EndsNumber c) (rest : List Char) :
    lexFrom .gap (decimalChars n ++ c :: rest)
      = .number (.natural n) :: lexFrom .gap (c :: rest) := by
  obtain ⟨number, hlex, hnatural⟩ := lexFrom_number (isNumber_of_whole (isWhole_decimalChars n))
  rw [hlex _ (atEnd_cons hc rest), (hnatural n).mpr ⟨isNumeral_decimalChars n, hn⟩]

end Token

end Json

end Liveness

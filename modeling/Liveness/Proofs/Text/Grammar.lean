import Liveness.Proofs.Text.Numeral

/-!
# What is read as a number

A numeral is one or more digits of ASCII, with any number of zeros in front, and a sign may stand
before it. The readers go through a text from left to right and stop at the first character that is
no digit or makes the value too large, and yet they accept exactly the texts of this grammar whose
whole value is within the limit: a value never gets smaller as it is read on, so one that is too
large on the way is too large at the end, however many digits follow.
-/

namespace Liveness

/-- What is made of something read was read. -/
theorem map_eq_ok_iff {ε α β : Type} {r : Except ε α} {f : α → β} {b : β} :
    r.map f = .ok b ↔ ∃ a, r = .ok a ∧ f a = b := by
  cases r <;> simp [Except.map]

namespace Numeral

variable {limit n m v : Nat} {z : Int} {c : Char} {cs : List Char}

/-! ## The grammar -/

/-- Digits of ASCII, at least one, and their value. -/
structure IsNumeral (cs : List Char) (n : Nat) : Prop where
  ne_nil : cs ≠ []
  digits : ∀ c ∈ cs, c.isDigit = true
  value : Nat.ofDigitChars 10 cs 0 = n

instance (cs : List Char) (n : Nat) : Decidable (IsNumeral cs n) :=
  decidable_of_iff (cs ≠ [] ∧ cs.all Char.isDigit = true ∧ Nat.ofDigitChars 10 cs 0 = n)
    ⟨fun h => ⟨h.1, List.all_eq_true.mp h.2.1, h.2.2⟩,
      fun h => ⟨h.ne_nil, List.all_eq_true.mpr h.digits, h.value⟩⟩

/-- A numeral, with or without a plus sign. -/
inductive IsUnsigned : List Char → Nat → Prop where
  | bare {cs : List Char} {n : Nat} (h : IsNumeral cs n) : IsUnsigned cs n
  | plus {cs : List Char} {n : Nat} (h : IsNumeral cs n) : IsUnsigned ('+' :: cs) n

/-- A numeral, with or without a sign. -/
inductive IsSigned : List Char → Int → Prop where
  | unsigned {cs : List Char} {n : Nat} (h : IsUnsigned cs n) : IsSigned cs n
  | minus {cs : List Char} {n : Nat} (h : IsNumeral cs n) : IsSigned ('-' :: cs) (-n)

/-! ## Digits -/

theorem isDigit_iff : c.isDigit = true ↔ 48 ≤ c.toNat ∧ c.toNat ≤ 57 := by
  simp only [Char.isDigit, Bool.and_eq_true, decide_eq_true_eq]
  exact and_congr UInt32.le_iff_toNat_le UInt32.le_iff_toNat_le

theorem digit?_of_isDigit (h : c.isDigit = true) : digit? c = some (c.toNat - 48) :=
  if_pos (isDigit_iff.mp h)

theorem isDigit_of_digit? {d : Nat} (h : digit? c = some d) : c.isDigit = true := by
  unfold digit? at h
  split at h
  · rename_i hrange
    exact isDigit_iff.mpr hrange
  · cases h

theorem le_ofDigitChars (cs : List Char) (v : Nat) : v ≤ Nat.ofDigitChars 10 cs v := by
  rw [Nat.ofDigitChars_eq_ofDigitChars_zero]
  have hpos : 0 < 10 ^ cs.length := Nat.pow_pos (by decide)
  exact Nat.le_add_right_of_le (Nat.le_mul_of_pos_left v hpos)

/-! ## Reading -/

theorem readDigits_eq_ok_iff (hv : v ≤ limit) :
    readDigits limit v cs = .ok n ↔
      (∀ c ∈ cs, c.isDigit = true) ∧ Nat.ofDigitChars 10 cs v = n ∧ n ≤ limit := by
  induction cs generalizing v with
  | nil =>
      rw [readDigits, Nat.ofDigitChars_nil, Except.ok.injEq]
      constructor
      · rintro rfl
        exact ⟨by simp, rfl, hv⟩
      · exact fun h => h.2.1
  | cons c cs ih =>
      by_cases hdigit : c.isDigit = true
      · rw [readDigits, digit?_of_isDigit hdigit, Nat.ofDigitChars_cons]
        dsimp only
        have hzero : '0'.toNat = 48 := rfl
        rw [hzero]
        split
        · rename_i hlarge
          refine ⟨by rintro ⟨⟩, ?_⟩
          rintro ⟨-, rfl, hfit⟩
          have hle := le_ofDigitChars cs (10 * v + (c.toNat - 48))
          omega
        · rename_i hsmall
          rw [ih (Nat.not_lt.mp hsmall), List.forall_mem_cons]
          simp only [hdigit, true_and]
      · have hnone : digit? c = none := by
          cases hd : digit? c with
          | none => rfl
          | some d => exact absurd (isDigit_of_digit? hd) hdigit
        rw [readDigits, hnone]
        refine ⟨by rintro ⟨⟩, fun h => absurd (h.1 c (List.mem_cons_self ..)) hdigit⟩

theorem readSomeDigits_of_ne_nil (h : cs ≠ []) :
    readSomeDigits limit cs = readDigits limit 0 cs := by
  rw [readSomeDigits, if_neg (mt List.isEmpty_iff.mp h)]

theorem readSomeDigits_eq_ok_iff :
    readSomeDigits limit cs = .ok n ↔ IsNumeral cs n ∧ n ≤ limit := by
  by_cases hne : cs = []
  · subst hne
    exact ⟨by rintro ⟨⟩, fun h => absurd rfl h.1.ne_nil⟩
  · rw [readSomeDigits_of_ne_nil hne, readDigits_eq_ok_iff (Nat.zero_le limit)]
    constructor
    · rintro ⟨hdigits, hvalue, hfit⟩
      exact ⟨⟨hne, hdigits, hvalue⟩, hfit⟩
    · rintro ⟨h, hfit⟩
      exact ⟨h.digits, h.value, hfit⟩

theorem IsNumeral.head_isDigit (h : IsNumeral (c :: cs) n) : c.isDigit = true :=
  h.digits c (List.mem_cons_self ..)

/-- What is read as a number without a minus sign. -/
theorem readNat_eq_ok_iff : readNat limit cs = .ok n ↔ IsUnsigned cs n ∧ n ≤ limit := by
  unfold readNat
  split
  · refine ⟨by rintro ⟨⟩, ?_⟩
    rintro ⟨⟨h⟩, -⟩
    exact absurd rfl h.ne_nil
  · rw [readSomeDigits_eq_ok_iff]
    constructor
    · rintro ⟨h, hfit⟩
      exact ⟨.plus h, hfit⟩
    · rintro ⟨h | h, hfit⟩
      · exact absurd h.head_isDigit (by decide)
      · exact ⟨h, hfit⟩
  · rename_i hnil hplus
    rw [← readSomeDigits_of_ne_nil hnil, readSomeDigits_eq_ok_iff]
    constructor
    · rintro ⟨h, hfit⟩
      exact ⟨.bare h, hfit⟩
    · rintro ⟨h | h, hfit⟩
      · exact ⟨h, hfit⟩
      · exact absurd rfl (hplus _)

theorem readInt_of_ne_minus (h : ∀ rest, cs ≠ '-' :: rest) :
    readInt limit cs = (readNat limit cs).map Int.ofNat := by
  unfold readInt readNat
  split
  · rfl
  · rfl
  · exact absurd rfl (h _)
  · rename_i hnil hplus _
    split
    · exact absurd rfl hnil
    · exact absurd rfl (hplus _)
    · rfl

theorem readInt_minus_eq_ok_iff :
    readInt limit ('-' :: cs) = .ok z ↔ ∃ n, IsNumeral cs n ∧ n ≤ limit + 1 ∧ z = -(n : Int) := by
  cases hdigits : readSomeDigits (limit + 1) cs with
  | ok n =>
      have hread : readInt limit ('-' :: cs) = .ok (-(n : Int)) := by
        simp only [readInt, hdigits]
        rfl
      obtain ⟨hnumeral, hfit⟩ := readSomeDigits_eq_ok_iff.mp hdigits
      rw [hread]
      constructor
      · intro hz
        exact ⟨n, hnumeral, hfit, (Except.ok.inj hz).symm⟩
      · rintro ⟨m, hm, -, rfl⟩
        rw [← hnumeral.value, ← hm.value]
  | error fault =>
      have hread : ∃ fault', readInt limit ('-' :: cs) = .error fault' := by
        cases fault <;> exact ⟨_, by simp only [readInt, hdigits]; rfl⟩
      obtain ⟨fault', hread⟩ := hread
      rw [hread]
      refine ⟨by rintro ⟨⟩, ?_⟩
      rintro ⟨m, hm, hfit, -⟩
      cases (readSomeDigits_eq_ok_iff.mpr ⟨hm, hfit⟩).symm.trans hdigits

/-- What is read as a number with any sign. -/
theorem readInt_eq_ok_iff :
    readInt limit cs = .ok z ↔ IsSigned cs z ∧ -(limit + 1 : Int) ≤ z ∧ z ≤ limit := by
  by_cases hminus : ∃ rest, cs = '-' :: rest
  · obtain ⟨rest, rfl⟩ := hminus
    rw [readInt_minus_eq_ok_iff]
    constructor
    · rintro ⟨n, h, hfit, rfl⟩
      exact ⟨.minus h, by omega, by omega⟩
    · rintro ⟨h, hlow, -⟩
      cases h with
      | unsigned h =>
          cases h with
          | bare h => exact absurd h.head_isDigit (by decide)
      | minus h => exact ⟨_, h, by omega, rfl⟩
  · rw [readInt_of_ne_minus fun rest h => hminus ⟨rest, h⟩]
    constructor
    · intro h
      cases hread : readNat limit cs with
      | error fault =>
          rw [hread] at h
          cases h
      | ok n =>
          rw [hread] at h
          obtain rfl : (n : Int) = z := Except.ok.inj h
          obtain ⟨hunsigned, hfit⟩ := readNat_eq_ok_iff.mp hread
          exact ⟨.unsigned hunsigned, by omega, by omega⟩
    · rintro ⟨h, -, hfit⟩
      cases h with
      | unsigned h =>
          rw [readNat_eq_ok_iff.mpr ⟨h, by omega⟩]
          rfl
      | minus h => exact absurd ⟨_, rfl⟩ hminus

/-! ## What the grammar tells of a text -/

/-- A text is the numeral of one number at most. -/
theorem IsUnsigned.unique (h : IsUnsigned cs n) (h' : IsUnsigned cs m) : n = m := by
  have hn := readNat_eq_ok_iff.mpr ⟨h, Nat.le_max_left n m⟩
  have hm := readNat_eq_ok_iff.mpr ⟨h', Nat.le_max_right n m⟩
  exact Except.ok.inj (hn.symm.trans hm)

theorem IsUnsigned.mem_cases (h : IsUnsigned cs n) (hc : c ∈ cs) : c = '+' ∨ c.isDigit = true := by
  cases h with
  | bare h => exact .inr (h.digits c hc)
  | plus h =>
      rcases List.mem_cons.mp hc with rfl | hc
      · exact .inl rfl
      · exact .inr (h.digits c hc)

theorem IsUnsigned.ne_nil (h : IsUnsigned cs n) : cs ≠ [] := by
  cases h with
  | bare h => exact h.ne_nil
  | plus h => exact List.cons_ne_nil _ _

/-! ## Decimal text -/

theorem isDigit_of_mem_decimalChars (hc : c ∈ decimalChars n) : c.isDigit = true := by
  obtain ⟨d, hd⟩ := exists_digit?_of_mem_decimalChars hc
  exact isDigit_of_digit? hd

theorem ofDigitChars_map_digitChar {ds : List Nat} (h : ∀ d ∈ ds, d < 10) (v : Nat) :
    Nat.ofDigitChars 10 (ds.map digitChar) v = ds.foldl (fun v d => 10 * v + d) v := by
  induction ds generalizing v with
  | nil => rfl
  | cons d ds ih =>
      have hd := digit?_digitChar (h d (List.mem_cons_self ..))
      have hvalue : (digitChar d).toNat - 48 = d :=
        Option.some.inj ((digit?_of_isDigit (isDigit_of_digit? hd)).symm.trans hd)
      have hzero : '0'.toNat = 48 := rfl
      rw [List.map_cons, Nat.ofDigitChars_cons, hzero, hvalue, List.foldl_cons]
      exact ih (fun d hd => h d (List.mem_cons_of_mem _ hd)) _

theorem isNumeral_decimalChars (n : Nat) : IsNumeral (decimalChars n) n where
  ne_nil := by
    rw [decimalChars, Ne, List.map_eq_nil_iff, digitsIn]
    split
    · exact List.cons_ne_nil _ _
    · exact List.append_ne_nil_of_right_ne_nil _ (List.cons_ne_nil _ _)
  digits _ hc := isDigit_of_mem_decimalChars hc
  value := by
    rw [decimalChars, ofDigitChars_map_digitChar fun d hd => lt_of_mem_digitsIn (by decide) hd,
      foldl_digitsIn (by decide)]

end Numeral

end Liveness

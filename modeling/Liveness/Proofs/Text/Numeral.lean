import Mathlib.Data.Nat.Digits.Lemmas
import Liveness.Text.Numeral

/-!
# Numerals read back

The digits that a number is written with are the digits of the number in the base, the most
significant first. So they are below the base, they begin with a zero only if the number is zero,
and to read them from the left gives the number back. A decimal numeral has digits and nothing
else.
-/

namespace Liveness

namespace Numeral

variable {base n d : Nat}

theorem digitsIn_eq_digits (hb : 2 ≤ base) (hn : n ≠ 0) :
    digitsIn base n = (Nat.digits base n).reverse := by
  induction n using Nat.strongRecOn with
  | ind n ih =>
      by_cases hlt : n < base
      · rw [digitsIn_of_lt hlt, Nat.digits_of_lt base n hn hlt, List.reverse_singleton]
      · have hle := Nat.not_lt.mp hlt
        have hpos : n / base ≠ 0 := Nat.ne_of_gt (Nat.div_pos hle (by omega))
        have hless : n / base < n := Nat.div_lt_self (Nat.pos_of_ne_zero hn) hb
        rw [digitsIn_of_le hb hle, ih _ hless hpos, Nat.digits_eq_cons_digits_div hb hn,
          List.reverse_cons]

theorem lt_of_mem_digitsIn (hb : 2 ≤ base) (h : d ∈ digitsIn base n) : d < base := by
  by_cases hn : n = 0
  · subst hn
    rw [digitsIn_of_lt (by omega)] at h
    rw [List.mem_singleton.mp h]
    omega
  · rw [digitsIn_eq_digits hb hn, List.mem_reverse] at h
    exact Nat.digits_lt_base hb h

/-- Digits read from the left give their number. -/
theorem foldl_digitsIn (hb : 2 ≤ base) (n : Nat) :
    (digitsIn base n).foldl (fun value d => base * value + d) 0 = n := by
  by_cases hn : n = 0
  · subst hn
    rw [digitsIn_of_lt (by omega)]
    rfl
  · have hread := Nat.ofDigits_digits base n
    rw [Nat.ofDigits_eq_foldr] at hread
    rw [digitsIn_eq_digits hb hn, List.foldl_reverse]
    simpa only [Nat.add_comm, Nat.cast_id] using hread

/-- A number that is not zero does not begin with a zero. -/
theorem exists_digitsIn_eq_cons (hb : 2 ≤ base) (hn : n ≠ 0) :
    ∃ d ds, digitsIn base n = d :: ds ∧ d ≠ 0 := by
  have hne : Nat.digits base n ≠ [] := Nat.digits_ne_nil_iff_ne_zero.mpr hn
  refine ⟨(Nat.digits base n).getLast hne, (Nat.digits base n).dropLast.reverse, ?_,
    Nat.getLast_digit_ne_zero base hn⟩
  rw [digitsIn_eq_digits hb hn, ← List.reverse_concat, List.dropLast_append_getLast]

theorem digit?_digitChar (h : d < 10) : digit? (digitChar d) = some d := by
  have hall : ∀ d : Fin 10, digit? (digitChar d) = some d.val := by decide
  exact hall ⟨d, h⟩

theorem exists_digit?_of_mem_decimalChars {c : Char} (h : c ∈ decimalChars n) :
    ∃ d, digit? c = some d := by
  obtain ⟨d, hd, rfl⟩ := List.mem_map.mp h
  exact ⟨d, digit?_digitChar (lt_of_mem_digitsIn (by decide) hd)⟩

/-! ## Different numbers are written differently -/

theorem digitsIn_inj (hb : 2 ≤ base) {m : Nat} (h : digitsIn base n = digitsIn base m) : n = m := by
  rw [← foldl_digitsIn hb n, h, foldl_digitsIn hb m]

theorem digitChar_inj {e : Nat} (hd : d < 16) (he : e < 16) (h : digitChar d = digitChar e) :
    d = e := by
  have hall : ∀ d e : Fin 16, digitChar d = digitChar e → d = e := by decide
  exact congrArg Fin.val (hall ⟨d, hd⟩ ⟨e, he⟩ h)

theorem map_digitChar_inj : ∀ {ds es : List Nat}, (∀ d ∈ ds, d < 16) → (∀ e ∈ es, e < 16) →
    ds.map digitChar = es.map digitChar → ds = es
  | [], [], _, _, _ => rfl
  | [], _ :: _, _, _, h => by cases h
  | _ :: _, [], _, _, h => by cases h
  | d :: ds, e :: es, hds, hes, h => by
      obtain ⟨hhead, htail⟩ := List.cons.inj h
      obtain rfl := digitChar_inj (hds d (List.mem_cons_self ..)) (hes e (List.mem_cons_self ..))
        hhead
      rw [map_digitChar_inj (fun d hd => hds d (List.mem_cons_of_mem _ hd))
        (fun e he => hes e (List.mem_cons_of_mem _ he)) htail]

theorem numeral_inj (hb : 2 ≤ base) (hb' : base ≤ 16) {m : Nat}
    (h : (digitsIn base n).map digitChar = (digitsIn base m).map digitChar) : n = m :=
  digitsIn_inj hb (map_digitChar_inj
    (fun _ hd => Nat.lt_of_lt_of_le (lt_of_mem_digitsIn hb hd) hb')
    (fun _ hd => Nat.lt_of_lt_of_le (lt_of_mem_digitsIn hb hd) hb') h)

end Numeral

end Liveness

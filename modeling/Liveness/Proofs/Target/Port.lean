import Liveness.Proofs.Text.Grammar
import Liveness.Proofs.Text.Trim
import Liveness.Target.Port

/-!
# Which texts are ports

A port is a numeral, with or without a plus sign and with white space of any kind around it, whose
value is in the range that targets listen on. The value is that of all digits, however many there
are: zeros in front change nothing, and a value that is out of range is none however far it is out.

White space inside a numeral or after its sign is no part of the grammar, and no character of a
numeral is white space. So what is left of a text without the white space at its ends is the
numeral, if there is one.
-/

namespace Liveness

namespace Port

open Numeral

variable {text : String} {n : Nat} {p : UInt16}

/-- A text is the numeral of a number, with white space around it. -/
def Shows (text : String) (n : Nat) : Prop :=
  ∃ w cs w', text.toList = w ++ cs ++ w' ∧ (∀ c ∈ w, isBlank c = true)
    ∧ (∀ c ∈ w', isBlank c = true) ∧ IsUnsigned cs n

theorem isBlank_of_isDigit {c : Char} (h : c.isDigit = true) : isBlank c = false := by
  have hrange := isDigit_iff.mp h
  refine Bool.eq_false_iff.mpr fun hblank => ?_
  simp only [isBlank, Bool.or_eq_true, Bool.and_eq_true, decide_eq_true_eq, beq_iff_eq] at hblank
  omega

theorem shows_iff : Shows text n ↔ IsUnsigned (trim text.toList) n := by
  constructor
  · rintro ⟨w, cs, w', htext, hw, hw', h⟩
    have hcs : ∀ c ∈ cs, isBlank c = false := by
      intro c hc
      rcases h.mem_cases hc with rfl | hdigit
      · rfl
      · exact isBlank_of_isDigit hdigit
    rw [htext, trim_append hw hw' hcs]
    exact h
  · intro h
    obtain ⟨w, w', htext, hw, hw'⟩ := exists_eq_append_trim text.toList
    exact ⟨w, _, w', htext, hw, hw', h⟩

theorem Shows.unique {m : Nat} (h : Shows text n) (h' : Shows text m) : n = m :=
  (shows_iff.mp h).unique (shows_iff.mp h')

/-- The port of a number, if it is one. -/
theorem parse?_of_shows (h : Shows text n) :
    parse? text = if 1500 ≤ n ∧ n ≤ 10000 then some (UInt16.ofNat n) else none := by
  by_cases hfit : n ≤ UInt16.size - 1
  · rw [parse?, readNat_eq_ok_iff.mpr ⟨shows_iff.mp h, hfit⟩]
    rfl
  · have hrange : ¬ (1500 ≤ n ∧ n ≤ 10000) := by
      have hsize : UInt16.size = 65536 := rfl
      omega
    rw [if_neg hrange, parse?]
    split
    · rfl
    · rename_i m hm
      obtain ⟨hm, hle⟩ := readNat_eq_ok_iff.mp hm
      rw [(shows_iff.mp h).unique hm] at hfit
      exact absurd hle hfit

theorem exists_shows_of_parse? (h : parse? text = some p) : ∃ n, Shows text n := by
  unfold parse? at h
  split at h
  · cases h
  · rename_i n hn
    exact ⟨n, shows_iff.mpr (readNat_eq_ok_iff.mp hn).1⟩

theorem parse?_eq_some_iff :
    parse? text = some p ↔ Shows text p.toNat ∧ 1500 ≤ p.toNat ∧ p.toNat ≤ 10000 := by
  constructor
  · intro h
    obtain ⟨n, hn⟩ := exists_shows_of_parse? h
    rw [parse?_of_shows hn] at h
    split at h
    · rename_i hrange
      have hsize : UInt16.size = 65536 := rfl
      have hnat : p.toNat = n := by
        rw [← Option.some.inj h]
        exact UInt16.toNat_ofNat_of_lt' (by omega)
      rw [hnat]
      exact ⟨hn, hrange⟩
    · cases h
  · rintro ⟨hshows, hrange⟩
    rw [parse?_of_shows hshows, if_pos hrange, UInt16.ofNat_toNat]

/-- The texts that are ports, and those that are none: a port is what a text shows, in range. In
particular each port in range is read from its decimal text, with any white space around it. -/
theorem ports_accepted (text : String) :
    (∀ p, parse? text = some p ↔ Shows text p.toNat ∧ 1500 ≤ p.toNat ∧ p.toNat ≤ 10000)
      ∧ (parse? text = none ↔ ∀ n, Shows text n → n < 1500 ∨ 10000 < n)
      ∧ ∀ (p : UInt16) (w w' : List Char), 1500 ≤ p.toNat → p.toNat ≤ 10000 →
        (∀ c ∈ w, isBlank c = true) → (∀ c ∈ w', isBlank c = true) →
        text = String.ofList w ++ decimal p.toNat ++ String.ofList w' → parse? text = some p := by
  refine ⟨fun p => parse?_eq_some_iff, ⟨fun hnone n hn => ?_, fun hall => ?_⟩, ?_⟩
  · rw [parse?_of_shows hn] at hnone
    split at hnone
    · cases hnone
    · omega
  · cases hparse : parse? text with
    | none => rfl
    | some p =>
        obtain ⟨hshows, hlow, hhigh⟩ := parse?_eq_some_iff.mp hparse
        have hout := hall p.toNat hshows
        omega
  · rintro p w w' hlow hhigh hw hw' rfl
    refine parse?_eq_some_iff.mpr ⟨⟨w, decimalChars p.toNat, w', ?_, hw, hw', ?_⟩, hlow, hhigh⟩
    · simp only [String.toList_append, String.toList_ofList, decimal]
    · exact .bare (isNumeral_decimalChars p.toNat)

/-- The lowest port with a sign, zeros and white space beyond ASCII, a port as it is written with
white space around it, and a number that no word of a port holds. -/
theorem ports_accepted_around_white_space :
    parse? "\u2003+0001500\t" = some 1500 ∧ parse? "\u00a08000\n" = some 8000
      ∧ parse? "70000" = none := by
  have hsign : Shows "\u2003+0001500\t" 1500 :=
    ⟨['\u2003'], "+0001500".toList, ['\t'], by decide, List.forall_mem_singleton.mpr (by decide),
      List.forall_mem_singleton.mpr (by decide), .plus (by decide)⟩
  have hlarge : Shows "70000" 70000 :=
    ⟨[], "70000".toList, [], by decide, List.forall_mem_nil _, List.forall_mem_nil _,
      .bare (by decide)⟩
  refine ⟨((ports_accepted _).1 1500).mpr ⟨hsign, by decide, by decide⟩,
    (ports_accepted _).2.2 8000 ['\u00a0'] ['\n'] (by decide) (by decide)
      (List.forall_mem_singleton.mpr (by decide)) (List.forall_mem_singleton.mpr (by decide))
      (by decide +kernel), (ports_accepted _).2.1.mpr fun n hn => .inr ?_⟩
  rw [hn.unique hlarge]
  decide

end Port

end Liveness

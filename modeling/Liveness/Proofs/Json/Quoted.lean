import Mathlib.Tactic.SplitIfs
import Liveness.Proofs.Json.Lexing

/-!
# Strings read back

However the characters of a string are written, it is read back as the string. Each piece is read
back by itself: what the lexer has read of the string grows by one character, and the lexer is ready
for the next piece. So nothing in a string can end it. The text that a string is given when it is
written is made of such pieces, too.
-/

namespace Liveness

namespace Json

namespace Token

variable {c : Char} {d n : Nat} {ds piece text : List Char} {s : String}

/-! ## Characters by their numbers -/

theorem hexDigit?_of_isHex (h : IsHex c d) : hexDigit? c = some d := by
  have hsmall : ∀ d : Fin 16, hexDigit? (Numeral.digitChar d) = some d.val := by decide
  have hcapital : ∀ d : Fin 16, hexDigit? (Numeral.digitChar d).toUpper = some d.val := by decide
  cases h with
  | small h => exact hsmall ⟨d, h⟩
  | capital h => exact hcapital ⟨d, h⟩

/-- Four digits are counted and put together to their value. -/
theorem reads_four (counted : Nat → Nat → State) (after : Nat → State)
    (hstep : ∀ c d digits value, hexDigit? c = some d → step c (counted digits value)
      = ([], if digits = 3 then after (16 * value + d) else counted (digits + 1) (16 * value + d)))
    (h : IsCode ds n) : Reads (counted 0 0) ds [] (after n) := by
  obtain @⟨a, b, c, d, i, j, k, l, ha, hb, hc, hd⟩ := h
  have hfirst := hstep a i 0 0 (hexDigit?_of_isHex ha)
  have hsecond := hstep b j 1 i (hexDigit?_of_isHex hb)
  have hthird := hstep c k 2 (16 * i + j) (hexDigit?_of_isHex hc)
  have hfourth := hstep d l 3 (16 * (16 * i + j) + k) (hexDigit?_of_isHex hd)
  rw [Nat.mul_zero, Nat.zero_add] at hfirst
  exact .cons hfirst (.cons hsecond (.cons hthird (reads_step hfourth)))

theorem reads_code (h : IsCode ds n) (read : Option (List Char)) :
    Reads (.string (.code 0 0) read) ds [] (afterCode n read) := by
  refine reads_four (fun digits value => .string (.code digits value) read)
    (fun n => afterCode n read) (fun c d digits value hd => ?_) h
  simp only [step, stepString, hd]
  exact (apply_ite (Prod.mk []) _ _ _).symm

theorem reads_halfCode (h : IsCode ds n) (high : Nat) (read : Option (List Char)) :
    Reads (.string (.halfCode high 0 0) read) ds [] (afterHalfCode high n read) := by
  refine reads_four (fun digits value => .string (.halfCode high digits value) read)
    (fun n => afterHalfCode high n read) (fun c d digits value hd => ?_) h
  simp only [step, stepString, hd]
  exact (apply_ite (Prod.mk []) _ _ _).symm

theorem afterCode_toNat (c : Char) (read : List Char) :
    afterCode c.toNat (some read) = .string .plain (some (c :: read)) := by
  have hvalid : c.toNat < 0xd800 ∨ 0xdfff < c.toNat ∧ c.toNat < 0x110000 := c.valid
  rw [afterCode, if_neg (by omega), if_neg (by omega), Char.ofNat_toNat]
  rfl

/-! ## Pieces and strings -/

/-- A character is read back, in whichever way it is written. -/
theorem reads_piece (h : IsPiece c piece) (read : List Char) :
    Reads (.string .plain (some read)) piece [] (.string .plain (some (c :: read))) := by
  cases h with
  | plain hquote hbackslash hcontrol =>
      refine reads_step ?_
      simp only [step, stepString, stepPlain, if_neg hquote, if_neg hbackslash,
        if_neg (Nat.not_lt.mpr hcontrol)]
      rfl
  | @letter l hl =>
      have hall : ∀ p ∈ letters, p.2 ≠ 'u' ∧ shortEscape? p.2 = some p.1 := by decide
      obtain ⟨hu, hshort⟩ := hall _ hl
      refine .cons rfl (reads_step ?_)
      simp only [step, stepString, stepEscape, if_neg hu, hshort]
      rfl
  | code hcode =>
      rw [← afterCode_toNat]
      exact .cons rfl (.cons rfl (reads_code hcode _))
  | @pair ds es high low hhigh hlow hfirst hsecond hvalue =>
      have hhalf : afterCode high (some read) = .string (.half high) (some read) := if_pos hfirst
      have hwhole : afterHalfCode high low (some read) = .string .plain (some (c :: read)) := by
        rw [afterHalfCode, if_pos hsecond, ← hvalue, Char.ofNat_toNat]
        rfl
      have hds := reads_code hhigh (some read)
      have hes := reads_halfCode hlow high (some read)
      rw [hhalf] at hds
      rw [hwhole] at hes
      exact .cons rfl (.cons rfl (hds.append (.cons rfl (.cons rfl hes))))

theorem reads_pieces {cs : List Char} (h : ArePieces cs text) (read : List Char) :
    Reads (.string .plain (some read)) text [] (.string .plain (some (cs.reverse ++ read))) := by
  induction h generalizing read with
  | nil => exact .nil _
  | @cons c cs piece text hpiece _ ih =>
      rw [List.reverse_cons, List.append_assoc]
      exact (reads_piece hpiece read).append (ih (c :: read))

/-- A string is read back from each of its texts, whatever follows. -/
theorem reads_string (h : IsString s text) : Reads .gap text [.string (some s)] .gap := by
  obtain ⟨hpieces⟩ := h
  have hread := reads_pieces hpieces []
  have hclose : step '"' (.string .plain (some (s.toList.reverse ++ [])))
      = ([.string (some s)], .gap) := by
    rw [List.append_nil, step, stepString, stepPlain, if_pos rfl, Option.map_some,
      List.reverse_reverse, String.ofList_toList]
  exact .cons rfl (hread.append (reads_step hclose))

/-! ## The text that is written -/

theorem isCode_numbered (h : n < 0x20) :
    IsCode ['0', '0', Numeral.digitChar (n / 16), Numeral.digitChar (n % 16)] n := by
  have hzero : IsHex '0' 0 := .small (d := 0) (by decide)
  have hcode := IsCode.mk hzero hzero (.small (d := n / 16) (by omega))
    (.small (d := n % 16) (Nat.mod_lt n (by decide)))
  have hvalue : 16 * (16 * (16 * 0 + 0) + n / 16) + n % 16 = n := by omega
  rwa [hvalue] at hcode

theorem isPiece_escape (c : Char) : IsPiece c (escape c) := by
  rw [escape]
  split_ifs with hquote hbackslash hb hf hn hr ht hcontrol
  · subst hquote; exact .letter (by decide)
  · subst hbackslash; exact .letter (by decide)
  · subst hb; exact .letter (by decide)
  · subst hf; exact .letter (by decide)
  · subst hn; exact .letter (by decide)
  · subst hr; exact .letter (by decide)
  · subst ht; exact .letter (by decide)
  · exact .code (isCode_numbered hcontrol)
  · exact .plain hquote hbackslash (Nat.not_lt.mp hcontrol)

theorem arePieces_escape (cs : List Char) : ArePieces cs (cs.flatMap escape) := by
  induction cs with
  | nil => exact .nil
  | cons c cs ih => exact .cons (isPiece_escape c) ih

theorem isString_stringChars (s : String) : IsString s (stringChars s.toList) :=
  .mk (arePieces_escape s.toList)

end Token

/-! ## No control stands as itself -/

theorem le_digitChar {d : Nat} (h : d < 16) : 0x20 ≤ (Numeral.digitChar d).toNat := by
  have hall : ∀ d : Fin 16, 0x20 ≤ (Numeral.digitChar d).toNat := by decide
  exact hall ⟨d, h⟩

theorem le_of_mem_numbered {c : Char} {n : Nat} (hn : n < 0x20) (hc : c ∈ numbered n) :
    0x20 ≤ c.toNat := by
  simp only [numbered, List.mem_cons, List.not_mem_nil, or_false] at hc
  rcases hc with rfl | rfl | rfl | rfl | rfl | rfl
  iterate 4 decide
  · exact le_digitChar (by omega)
  · exact le_digitChar (Nat.mod_lt _ (by decide))

theorem le_of_mem_escape {c e : Char} (he : e ∈ escape c) : 0x20 ≤ e.toNat := by
  have hletter {l : Char} (hl : 0x20 ≤ l.toNat) (he : e ∈ ['\\', l]) : 0x20 ≤ e.toNat := by
    rcases List.mem_cons.mp he with rfl | he
    · decide
    · rwa [List.mem_singleton.mp he]
  rw [escape] at he
  split_ifs at he with _ _ _ _ _ _ _ hcontrol
  iterate 7 exact hletter (by decide) he
  · exact le_of_mem_numbered hcontrol he
  · rw [List.mem_singleton.mp he]
    exact Nat.not_lt.mp hcontrol

theorem le_of_mem_stringChars {cs : List Char} {c : Char} (hc : c ∈ stringChars cs) :
    0x20 ≤ c.toNat := by
  simp only [stringChars, List.mem_cons, List.mem_append, List.mem_flatMap, List.not_mem_nil,
    or_false] at hc
  rcases hc with rfl | ⟨a, -, hc⟩ | rfl
  · decide
  · exact le_of_mem_escape hc
  · decide

end Json

end Liveness

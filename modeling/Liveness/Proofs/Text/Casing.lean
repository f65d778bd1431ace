import Mathlib.Data.List.Forall2
import Liveness.Response
import Liveness.Text.Utf8

/-!
# Names up to the case of ASCII letters

Two names are taken for one if they have the same characters at the same places, where the capital
and the small form of an ASCII letter count as the same. `Recased` says this of the two texts and
folds neither of them.

To fold the characters of both texts decides it, and so does to fold their bytes: in UTF-8 a byte
below 128 is a character by itself and no other character has such a byte, so folding and encoding
can change places. A character beyond ASCII is therefore matched by nothing but itself, whatever it
is the capital, the small form or the compatible form of.
-/

namespace Liveness

variable {a b a' b' : String} {c d : Char} {cs cs' : List Char}

/-! ## Characters -/

/-- The ASCII capitals; the small form of each stands 32 places behind it. -/
def IsCapital (c : Char) : Prop := 'A'.toNat ≤ c.toNat ∧ c.toNat ≤ 'Z'.toNat

theorem isCapital_iff : IsCapital c ↔ 65 ≤ c.toNat ∧ c.toNat ≤ 90 := .rfl

/-- The same character, or the two forms of one ASCII letter. -/
inductive Casing : Char → Char → Prop where
  | same (c : Char) : Casing c c
  | lowered {c d : Char} (hc : IsCapital c) (hd : d.toNat = c.toNat + 32) : Casing c d
  | raised {c d : Char} (hd : IsCapital d) (hc : c.toNat = d.toNat + 32) : Casing c d

theorem IsCapital.toNat_toLower (h : IsCapital c) : c.toLower.toNat = c.toNat + 32 := by
  have hlt : c.toNat + 32 < UInt32.size :=
    Nat.lt_of_le_of_lt (Nat.add_le_add_right (isCapital_iff.mp h).2 32) (by decide)
  obtain ⟨hA, hZ⟩ := h
  have hlower : c.toLower = _ :=
    dif_pos ⟨UInt32.le_iff_toNat_le.mpr hA, UInt32.le_iff_toNat_le.mpr hZ⟩
  rw [hlower]
  exact (UInt32.toNat_add _ _).trans (Nat.mod_eq_of_lt hlt)

theorem toLower_of_not_isCapital (h : ¬ IsCapital c) : c.toLower = c := by
  refine dif_neg fun hbounds => h ?_
  exact ⟨UInt32.le_iff_toNat_le.mp hbounds.1, UInt32.le_iff_toNat_le.mp hbounds.2⟩

/-- The small form of a capital is no capital. -/
theorem IsCapital.not_of_add (h : IsCapital c) (hd : d.toNat = c.toNat + 32) : ¬ IsCapital d := by
  rw [isCapital_iff] at h ⊢
  omega

theorem toLower_eq_iff : c.toLower = d.toLower ↔ Casing c d := by
  constructor
  · intro h
    have hnat := congrArg Char.toNat h
    by_cases hc : IsCapital c
    · rw [hc.toNat_toLower] at hnat
      by_cases hd : IsCapital d
      · rw [hd.toNat_toLower] at hnat
        obtain rfl := Char.toNat_inj.mp (Nat.add_right_cancel hnat)
        exact .same c
      · rw [toLower_of_not_isCapital hd] at hnat
        exact .lowered hc hnat.symm
    · rw [toLower_of_not_isCapital hc] at h hnat
      by_cases hd : IsCapital d
      · rw [hd.toNat_toLower] at hnat
        exact .raised hd hnat
      · rw [toLower_of_not_isCapital hd] at h
        exact h ▸ .same c
  · rintro (_ | ⟨hc, hd⟩ | ⟨hd, hc⟩)
    · rfl
    · rw [toLower_of_not_isCapital (hc.not_of_add hd)]
      exact Char.toNat_inj.mp (hc.toNat_toLower.trans hd.symm)
    · rw [toLower_of_not_isCapital (hd.not_of_add hc)]
      exact Char.toNat_inj.mp (hc.trans hd.toNat_toLower.symm)

/-! ## Names -/

/-- The same text, except that some ASCII letters may have their other form. -/
def Recased (a b : String) : Prop := List.Forall₂ Casing a.toList b.toList

theorem map_eq_map_iff_forall₂ {β : Type} (f : Char → β) :
    cs.map f = cs'.map f ↔ List.Forall₂ (fun c d => f c = f d) cs cs' := by
  rw [← List.forall₂_eq_eq_eq, List.forall₂_map_left_iff, List.forall₂_map_right_iff]

theorem foldCase_eq_iff : foldCase a = foldCase b ↔ Recased a b := by
  simp only [foldCase, map_eq_map_iff_forall₂, toLower_eq_iff, Recased]

theorem sameName_iff_recased : sameName a b = true ↔ Recased a b :=
  sameName_iff.trans foldCase_eq_iff

theorem Recased.symm (h : Recased a b) : Recased b a :=
  foldCase_eq_iff.mp (foldCase_eq_iff.mpr h).symm

theorem Recased.trans (h : Recased a b) (h' : Recased b b') : Recased a b' :=
  foldCase_eq_iff.mp ((foldCase_eq_iff.mpr h).trans (foldCase_eq_iff.mpr h'))

theorem sameName_congr (ha : Recased a a') (hb : Recased b b') :
    sameName a b = sameName a' b' := by
  rw [sameName, sameName, foldCase_eq_iff.mpr ha, foldCase_eq_iff.mpr hb]

/-! ## Bytes -/

/-- A byte that is an ASCII capital made small. -/
def lowerByte (b : UInt8) : UInt8 :=
  if 'A'.toNat ≤ b.toNat ∧ b.toNat ≤ 'Z'.toNat then b + 32 else b

theorem lowerByte_of_le {b : UInt8} (h : 128 ≤ b.toNat) : lowerByte b = b := by
  have hZ : 'Z'.toNat = 90 := rfl
  exact if_neg fun hb => by omega

theorem le_toNat_ofNat {n : Nat} (h : 128 ≤ n) (hlt : n < UInt8.size) :
    128 ≤ (UInt8.ofNat n).toNat := by
  rw [UInt8.toNat_ofNat_of_lt' hlt]
  exact h

/-- A character beyond ASCII has no byte of an ASCII character. -/
theorem le_of_mem_encodeChar (h : 128 ≤ c.toNat) {b : UInt8} (hb : b ∈ String.utf8EncodeChar c) :
    128 ≤ b.toNat := by
  have hval : c.val.toNat = c.toNat := rfl
  have hsize : UInt8.size = 256 := rfl
  rw [String.utf8EncodeChar, if_neg (by omega)] at hb
  split at hb
  · simp only [List.mem_cons, List.not_mem_nil, or_false] at hb
    rcases hb with rfl | rfl <;> exact le_toNat_ofNat (by omega) (by omega)
  · split at hb
    · simp only [List.mem_cons, List.not_mem_nil, or_false] at hb
      rcases hb with rfl | rfl | rfl <;> exact le_toNat_ofNat (by omega) (by omega)
    · simp only [List.mem_cons, List.not_mem_nil, or_false] at hb
      rcases hb with rfl | rfl | rfl | rfl <;> exact le_toNat_ofNat (by omega) (by omega)

theorem map_lowerByte_encodeChar (c : Char) :
    (String.utf8EncodeChar c).map lowerByte = String.utf8EncodeChar c.toLower := by
  -- the ASCII characters one by one; beyond them neither side changes anything
  by_cases hc : c.toNat < 128
  · have hascii : ∀ n < 128, (String.utf8EncodeChar (Char.ofNat n)).map lowerByte
        = String.utf8EncodeChar (Char.ofNat n).toLower := by decide
    have hchar := hascii c.toNat hc
    rw [Char.ofNat_toNat] at hchar
    exact hchar
  · have hle : 128 ≤ c.toNat := Nat.not_lt.mp hc
    have hcapital : ¬ IsCapital c := by
      rw [isCapital_iff]
      omega
    rw [toLower_of_not_isCapital hcapital]
    have hsame : ∀ b ∈ String.utf8EncodeChar c, lowerByte b = b := fun b hb =>
      lowerByte_of_le (le_of_mem_encodeChar hle hb)
    exact (List.map_congr_left hsame).trans (List.map_id _)

theorem map_lowerByte_encode (cs : List Char) :
    (Utf8.encode cs).map lowerByte = Utf8.encode (cs.map Char.toLower) := by
  rw [Utf8.encode, Utf8.encode, List.map_flatMap, List.flatMap_map]
  exact List.flatMap_congr fun c _ => map_lowerByte_encodeChar c

theorem Utf8.encode_inj : Utf8.encode cs = Utf8.encode cs' ↔ cs = cs' := by
  constructor
  · intro h
    have hbytes : (String.ofList cs).toByteArray = (String.ofList cs').toByteArray := by
      rw [String.toByteArray_ofList, String.toByteArray_ofList]
      exact congrArg List.toByteArray h
    exact String.ofList_injective (String.toByteArray_inj.mp hbytes)
  · exact congrArg Utf8.encode

/-- Names that match are those whose bytes are the same when the ASCII capitals among them are made
small. -/
theorem recased_iff_bytes : Recased a b ↔
    (Utf8.encode a.toList).map lowerByte = (Utf8.encode b.toList).map lowerByte := by
  rw [map_lowerByte_encode, map_lowerByte_encode, Utf8.encode_inj]
  exact foldCase_eq_iff.symm

/-! ## Beyond ASCII -/

/-- The characters of a text that are not ASCII, each at its place. -/
def beyondAscii (s : String) : List (Option Char) :=
  s.toList.map fun c => if c.toNat < 128 then none else some c

theorem IsCapital.lt (h : IsCapital c) : c.toNat + 32 < 128 := by
  have hle := (isCapital_iff.mp h).2
  omega

theorem Recased.beyondAscii_eq (h : Recased a b) : beyondAscii a = beyondAscii b := by
  refine (map_eq_map_iff_forall₂ _).mpr (h.imp ?_)
  rintro c d (_ | ⟨hc, hd⟩ | ⟨hd, hc⟩)
  · rfl
  · have hlt := hc.lt
    rw [if_pos (by omega), if_pos (by omega)]
  · have hlt := hd.lt
    rw [if_pos (by omega), if_pos (by omega)]

end Liveness

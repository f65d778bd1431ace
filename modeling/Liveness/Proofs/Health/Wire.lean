import Liveness.Proofs.Health.Decoding

/-!
# Health read back

A health is read back from its text as it was written, whatever characters its status holds. For the
text is that of an object, with the status as a string and the hit as a numeral, each once, and a
numeral of a word fits 64 bits.

The text is one line: its strings hold no control as it is, and what stands between them are marks
and digits.
-/

namespace Liveness

namespace Health

open Json Token

/-- The members of the object that a health is written as. -/
def members (h : Health) : List (String × Value) :=
  [(statusKey, .string h.status), (hitKey, .number (Numeral.decimalChars h.hit.toNat))]

theorem isObject_json (h : Health) : IsObject h.json h.members := by
  have hnone : IsBlank [] := fun _ => List.not_mem_nil.elim
  have hnumber := isNumber_of_whole (isWhole_decimalChars h.hit.toNat)
  have hstatus := Written.member hnone (isString_stringChars statusKey) hnone
    (.item hnone (.string (isString_stringChars h.status)) hnone)
  have hhit := Written.member hnone (isString_stringChars hitKey) hnone
    (.item hnone (.number hnumber) hnone)
  have hobject := Written.item hnone (.object hstatus (.members hhit .noMembers)) hnone
  rw [IsObject, members, json, String.toList_ofList, jsonChars]
  simpa only [List.append_assoc, List.cons_append, List.nil_append, List.append_nil] using hobject

/-- A health is read back from its text. -/
theorem parse_json (h : Health) : parse h.json = .ok h := by
  refine (parse_object_eq_ok_iff h.isObject_json).mpr ⟨?_, ?_⟩
  · rw [members, valuesAt_cons_self, valuesAt_cons_of_ne hitKey_ne_statusKey]
    exact ⟨_, rfl, rfl⟩
  · rw [members, valuesAt_cons_of_ne hitKey_ne_statusKey.symm, valuesAt_cons_self]
    exact ⟨_, rfl, _, rfl, Numeral.isNumeral_decimalChars _⟩

theorem le_of_mem_jsonChars {h : Health} {c : Char} (hc : c ∈ h.jsonChars) : 0x20 ≤ c.toNat := by
  simp only [jsonChars, List.mem_append, List.mem_singleton] at hc
  rcases hc with (((((((hmark | hkey) | hmark) | hstatus) | hmark) | hkey) | hmark) | hhit) | hmark
  · subst hmark; decide
  · exact le_of_mem_stringChars hkey
  · subst hmark; decide
  · exact le_of_mem_stringChars hstatus
  · subst hmark; decide
  · exact le_of_mem_stringChars hkey
  · subst hmark; decide
  · have hdigit := Numeral.isDigit_iff.mp (Numeral.isDigit_of_mem_decimalChars hhit)
    omega
  · subst hmark; decide

/-- On the wire a health is one line, and whoever reads it has the same health again: every
character of its label, whatever it is, and every hit that a word can hold. -/
theorem survives_wire (h : Health) :
    parse h.json = .ok h ∧ ∀ c ∈ h.json.toList, 0x20 ≤ c.toNat := by
  refine ⟨parse_json h, fun c hc => ?_⟩
  rw [json, String.toList_ofList] at hc
  exact le_of_mem_jsonChars hc

end Health

end Liveness

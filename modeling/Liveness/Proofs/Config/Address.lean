import Mathlib.Data.List.Basic
import Liveness.Config
import Liveness.Proofs.Text.Grammar

/-!
# Addresses of endpoints

The address of an endpoint tells which endpoint it is. A host is any text, so it may hold colons,
digits and slashes, or look like an address itself; but the decimal text of a port holds no colon.
So the last colon of an authority is the one between host and port, and both are read back from
what stands on its two sides.
-/

namespace Liveness

/-! ## The last colon -/

/-- The text before the last colon and the text after it, if there is a colon. -/
def lastColon? : List Char → Option (List Char × List Char)
  | [] => none
  | c :: cs =>
    match lastColon? cs with
    | some (before, after) => some (c :: before, after)
    | none => if c = ':' then some ([], cs) else none

theorem lastColon?_eq_none {cs : List Char} (h : ':' ∉ cs) : lastColon? cs = none := by
  induction cs with
  | nil => rfl
  | cons c cs ih =>
      have hne : c ≠ ':' := fun hc => h (hc ▸ List.mem_cons_self ..)
      rw [lastColon?, ih fun hmem => h (List.mem_cons_of_mem _ hmem)]
      exact if_neg hne

/-- A colon is the last one if none comes after it. -/
theorem lastColon?_append (before : List Char) {after : List Char} (h : ':' ∉ after) :
    lastColon? (before ++ ':' :: after) = some (before, after) := by
  induction before with
  | nil =>
      rw [List.nil_append, lastColon?, lastColon?_eq_none h]
      exact if_pos rfl
  | cons c before ih => rw [List.cons_append, lastColon?, ih]

theorem colon_not_mem_decimalChars (n : Nat) : ':' ∉ Numeral.decimalChars n := fun hmem =>
  absurd (Numeral.isDigit_of_mem_decimalChars hmem) (by decide)

namespace Config

/-! ## Reading an address -/

/-- Host and port from the text on the two sides of the last colon. -/
def endpointOf? (authority : List Char) : Option (String × UInt16) := do
  let (host, port) ← lastColon? authority
  let n ← (Numeral.readNat (UInt16.size - 1) port).toOption
  some (String.ofList host, UInt16.ofNat n)

/-- Reads an address: what is left without `http://` and the slash at the end is an authority. -/
def endpoint? (url : String) : Option (String × UInt16) := do
  let rest ← url.toList.dropPrefix? "http://".toList
  let authority ← rest.dropSuffix? "/".toList
  endpointOf? authority

theorem endpointOf?_authority (c : Config) :
    endpointOf? c.authority.toList = some (c.host, c.port) := by
  have htext : c.authority.toList = c.host.toList ++ ':' :: Numeral.decimalChars c.port.toNat := by
    simp [authority, Numeral.decimal]
  have hport : Numeral.readNat (UInt16.size - 1) (Numeral.decimalChars c.port.toNat)
      = .ok c.port.toNat :=
    Numeral.readNat_eq_ok_iff.mpr
      ⟨.bare (Numeral.isNumeral_decimalChars _), Nat.le_sub_one_of_lt c.port.toNat_lt_size⟩
  rw [endpointOf?, htext, lastColon?_append _ (colon_not_mem_decimalChars _), Option.bind_eq_bind,
    Option.bind_some]
  dsimp only
  rw [hport, String.ofList_toList]
  exact congrArg (fun port => some (c.host, port)) UInt16.ofNat_toNat

theorem endpoint?_url (c : Config) : endpoint? c.url = some (c.host, c.port) := by
  have htext : c.url.toList = "http://".toList ++ (c.authority.toList ++ "/".toList) := by
    simp only [url, String.toList_append, List.append_assoc]
  have hstart : c.url.toList.dropPrefix? "http://".toList
      = some (c.authority.toList ++ "/".toList) :=
    List.dropPrefix?_eq_some_iff.mpr ⟨"http://".toList, htext, beq_self_eq_true _⟩
  have hend : (c.authority.toList ++ "/".toList).dropSuffix? "/".toList = some c.authority.toList :=
    List.dropSuffix?_eq_some_iff.mpr ⟨"/".toList, rfl, beq_self_eq_true _⟩
  rw [endpoint?, hstart, Option.bind_eq_bind, Option.bind_some, hend]
  exact endpointOf?_authority c

/-- Two configurations have one address, and one authority, exactly if they have the same host and
the same port, whatever text the hosts are; and both are read back from the address. -/
theorem url_identifies_endpoint (a b : Config) :
    (a.url = b.url ↔ a.authority = b.authority)
      ∧ (a.authority = b.authority ↔ a.host = b.host ∧ a.port = b.port)
      ∧ endpoint? a.url = some (a.host, a.port) := by
  have hsame : a.host = b.host ∧ a.port = b.port → a.authority = b.authority := by
    rintro ⟨hhost, hport⟩
    rw [authority, authority, hhost, hport]
  have hpair {h h' : String} {p p' : UInt16} (heq : some (h, p) = some (h', p')) :
      h = h' ∧ p = p' := Prod.mk.inj (Option.some.inj heq)
  refine ⟨⟨fun hurl => hsame (hpair ?_), fun h => ?_⟩, ⟨fun h => hpair ?_, hsame⟩, endpoint?_url a⟩
  · rw [← endpoint?_url a, ← endpoint?_url b, hurl]
  · rw [url, url, h]
  · rw [← endpointOf?_authority a, ← endpointOf?_authority b, h]

/-- A host that looks like an authority and holds a slash. -/
example : endpoint? (url ⟨"http://b:1/:80", 443, 1, 1⟩) = some ("http://b:1/:80", 443) := by
  decide +kernel

end Config

end Liveness

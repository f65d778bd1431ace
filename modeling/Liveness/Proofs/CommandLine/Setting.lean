import Liveness.CommandLine.Parser
import Liveness.Proofs.Text.Grammar

/-!
# Settings

A setting is an option together with its value. Which texts denote a setting is said by a grammar:
any text is a host, and the numbers are numerals, of which a port may even carry a minus sign if it
is zero. The readers of values accept exactly the texts that denote one.

What the reading of a command line has gathered so far holds settings, one for each option at most,
and to put another one there changes nothing about the other options.
-/

namespace Liveness

namespace CommandLine

inductive Setting where
  | host (text : String)
  | port (n : UInt16)
  | count (n : UInt64)
  | concurrency (n : UInt64)
  | strict
  | json
deriving Repr, DecidableEq

namespace Setting

def key : Setting → Key
  | .host _ => .host
  | .port _ => .port
  | .count _ => .count
  | .concurrency _ => .concurrency
  | .strict => .strict
  | .json => .json

/-- The value as it is commonly written; a flag has none. -/
def text : Setting → String
  | .host text => text
  | .port n => Numeral.decimal n.toNat
  | .count n => Numeral.decimal n.toNat
  | .concurrency n => Numeral.decimal n.toNat
  | .strict => ""
  | .json => ""

end Setting

open Numeral (IsSigned IsUnsigned)

/-- A text is a value of an option. -/
inductive Denotes : String → Setting → Prop where
  | host (text : String) : Denotes text (.host text)
  | port {text : String} {n : UInt16} (h : IsSigned text.toList n.toNat) : Denotes text (.port n)
  | count {text : String} {n : UInt64} (h : IsUnsigned text.toList n.toNat) :
      Denotes text (.count n)
  | concurrency {text : String} {n : UInt64} (h : IsUnsigned text.toList n.toNat) :
      Denotes text (.concurrency n)

variable {g g' : Given} {x y : Setting} {k : Key} {s : String}

/-- The decimal text of a number denotes it, and a host denotes itself. -/
theorem Denotes.text (hx : x.key.valueName?.isSome) : Denotes x.text x := by
  have hdecimal (n : Nat) : IsUnsigned (Numeral.decimal n).toList n := by
    rw [Numeral.decimal, String.toList_ofList]
    exact .bare (Numeral.isNumeral_decimalChars n)
  cases x with
  | host text => exact .host text
  | port n => exact .port (.unsigned (hdecimal n.toNat))
  | count n => exact .count (hdecimal n.toNat)
  | concurrency n => exact .concurrency (hdecimal n.toNat)
  | strict => cases hx
  | json => cases hx

theorem Denotes.isSome_valueName? (hx : Denotes s x) : x.key.valueName?.isSome := by
  cases hx <;> rfl

/-! ## Readers of values -/

theorem readWord_eq_ok_iff {n : UInt64} :
    readWord s = .ok n ↔ IsUnsigned s.toList n.toNat := by
  have hlimit : n.toNat ≤ wordLimit := Nat.le_sub_one_of_lt n.toNat_lt_size
  unfold readWord
  split
  · rename_i fault herror
    refine ⟨by rintro ⟨⟩, fun h => ?_⟩
    cases (Numeral.readNat_eq_ok_iff.mpr ⟨h, hlimit⟩).symm.trans herror
  · rename_i m hread
    obtain ⟨hm, hfit⟩ := Numeral.readNat_eq_ok_iff.mp hread
    constructor
    · rintro ⟨⟩
      rwa [UInt64.toNat_ofNat_of_lt' (Nat.lt_of_le_pred (by decide) hfit)]
    · intro h
      rw [hm.unique h, UInt64.ofNat_toNat]

theorem readPort_eq_ok_iff {n : UInt16} :
    readPort s = .ok n ↔ IsSigned s.toList n.toNat := by
  have hlimit : n.toNat ≤ portLimit := Nat.le_sub_one_of_lt n.toNat_lt_size
  have hwide : portLimit ≤ signedLimit := by decide
  have hread_iff : Numeral.readInt signedLimit s.toList = .ok (n.toNat : Int)
      ↔ IsSigned s.toList n.toNat := by
    rw [Numeral.readInt_eq_ok_iff]
    exact ⟨fun h => h.1, fun h => ⟨h, by omega, by omega⟩⟩
  rw [← hread_iff]
  unfold readPort
  split
  · rename_i fault herror
    rw [herror]
    exact ⟨by rintro ⟨⟩, by rintro ⟨⟩⟩
  · rename_i z hread
    rw [hread, Except.ok.injEq]
    split
    · rename_i hrange
      rw [Except.ok.injEq]
      constructor
      · rintro rfl
        have hfit : z.toNat < UInt16.size := by
          have hsize : UInt16.size = portLimit + 1 := rfl
          omega
        rw [UInt16.toNat_ofNat_of_lt' hfit, Int.toNat_of_nonneg hrange.1]
      · rintro rfl
        rw [Int.toNat_natCast, UInt16.ofNat_toNat]
    · rename_i hrange
      refine ⟨by rintro ⟨⟩, ?_⟩
      rintro rfl
      exact absurd ⟨by omega, by omega⟩ hrange

/-! ## What is gathered -/

namespace Given

/-- A setting is among those that are gathered. -/
def Holds (g : Given) : Setting → Prop
  | .host text => g.host = some text
  | .port n => g.port = some n
  | .count n => g.count = some n
  | .concurrency n => g.concurrency = some n
  | .strict => g.strict = true
  | .json => g.json = true

def put (g : Given) : Setting → Given
  | .host text => { g with host := some text }
  | .port n => { g with port := some n }
  | .count n => { g with count := some n }
  | .concurrency n => { g with concurrency := some n }
  | .strict => { g with strict := true }
  | .json => { g with json := true }

theorem holds_put : (g.put x).Holds y ↔ x = y ∨ x.key ≠ y.key ∧ g.Holds y := by
  cases x <;> cases y <;> simp [put, Holds, Setting.key]

/-- What is gathered is determined by the settings. -/
theorem ext_holds (h : ∀ x, g.Holds x ↔ g'.Holds x) : g = g' := by
  obtain ⟨host, port, count, concurrency, strict, json⟩ := g
  obtain ⟨host', port', count', concurrency', strict', json'⟩ := g'
  obtain rfl : host = host' := Option.ext fun text => h (.host text)
  obtain rfl : port = port' := Option.ext fun n => h (.port n)
  obtain rfl : count = count' := Option.ext fun n => h (.count n)
  obtain rfl : concurrency = concurrency' := Option.ext fun n => h (.concurrency n)
  obtain rfl : strict = strict' := Bool.eq_iff_iff.mpr (h .strict)
  obtain rfl : json = json' := Bool.eq_iff_iff.mpr (h .json)
  rfl

/-- A text sets an option if it denotes one of its values, and no other text does. -/
theorem set_eq_ok_iff (hk : k.valueName?.isSome) :
    g.set k s = .ok g' ↔ ∃ x : Setting, x.key = k ∧ Denotes s x ∧ g.put x = g' := by
  constructor
  · intro h
    cases k with
    | host => exact ⟨.host s, rfl, .host s, Except.ok.inj h⟩
    | port =>
        obtain ⟨n, hn, hput⟩ := map_eq_ok_iff.mp h
        exact ⟨.port n, rfl, .port (readPort_eq_ok_iff.mp hn), hput⟩
    | count =>
        obtain ⟨n, hn, hput⟩ := map_eq_ok_iff.mp h
        exact ⟨.count n, rfl, .count (readWord_eq_ok_iff.mp hn), hput⟩
    | concurrency =>
        obtain ⟨n, hn, hput⟩ := map_eq_ok_iff.mp h
        exact ⟨.concurrency n, rfl, .concurrency (readWord_eq_ok_iff.mp hn), hput⟩
    | _ => cases hk
  · rintro ⟨x, rfl, hx, rfl⟩
    cases hx with
    | host => rfl
    | port h => exact map_eq_ok_iff.mpr ⟨_, readPort_eq_ok_iff.mpr h, rfl⟩
    | count h => exact map_eq_ok_iff.mpr ⟨_, readWord_eq_ok_iff.mpr h, rfl⟩
    | concurrency h => exact map_eq_ok_iff.mpr ⟨_, readWord_eq_ok_iff.mpr h, rfl⟩

theorem set_of_denotes (hx : Denotes s x) : g.set x.key s = .ok (g.put x) :=
  (set_eq_ok_iff hx.isSome_valueName?).mpr ⟨x, rfl, hx, rfl⟩

end Given

/-- A text is one value of an option at most, since to set the option has one result. -/
theorem Denotes.unique (hx : Denotes s x) (hy : Denotes s y) (h : x.key = y.key) : x = y := by
  have hset : ({} : Given).set x.key s = .ok (Given.put {} x) := Given.set_of_denotes hx
  rw [h, Given.set_of_denotes hy] at hset
  have hholds : (Given.put {} x).Holds y := by
    rw [← Except.ok.inj hset]
    exact Given.holds_put.mpr (.inl rfl)
  exact (Given.holds_put.mp hholds).resolve_right fun hother => hother.1 h

end CommandLine

end Liveness

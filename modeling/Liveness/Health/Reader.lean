import Liveness.Health.Basic
import Liveness.Json.Skip
import Liveness.Text.Quoted

/-!
# Reading the health of a target

Health is read from a JSON object with the members `status` and `hit` in any order, each
exactly once; members with other keys are skipped. A list of the two values is read too.
A text that is no JSON and one that does not fit are told apart by what comes first in it.
-/

namespace Liveness

namespace Health

open Json

/-- Why a text is no health. -/
inductive Fault where
  | malformed
  | missing (key : String)
  | duplicate (key : String)
  /-- a value of another kind -/
  | wrongKind (found expected : String)
  /-- a whole number below zero -/
  | belowZero (magnitude : Nat)
  /-- a list that ends after so many values -/
  | shortList (length : Nat)
deriving Repr, DecidableEq

namespace Fault

/-- The message about a text that is JSON and does not fit. -/
def message? : Fault → Option String
  | .malformed => none
  | .missing key => some ("missing field \x60" ++ key ++ "\x60")
  | .duplicate key => some ("duplicate field \x60" ++ key ++ "\x60")
  | .wrongKind found expected => some ("invalid type: " ++ found ++ ", expected " ++ expected)
  | .belowZero n => some ("invalid value: integer \x60-" ++ Numeral.decimal n
      ++ "\x60, expected usize")
  | .shortList n => some ("invalid length " ++ Numeral.decimal n
      ++ ", expected struct Health with 2 elements")

end Fault

/-! ## Values of another kind -/

def numberKind (kind text : String) : String := kind ++ " \x60" ++ text ++ "\x60"

/-- What a number is called. -/
def describeNumber : Number → Option String
  | .natural n => some (numberKind "integer" (Numeral.decimal n))
  | .negative n => some (numberKind "integer" ("-" ++ Numeral.decimal n))
  | other => other.double?.map fun x => numberKind "floating point" (Binary64.text x)

/-- What the value is called that begins with a token; nothing if none begins there. -/
def describe : Token → Option String
  | .word .null => some "null"
  | .word .true => some (numberKind "boolean" "true")
  | .word .false => some (numberKind "boolean" "false")
  | .number n => describeNumber n
  | .string (some text) => some ("string " ++ quote text)
  | .mark .openList => some "sequence"
  | .mark .openObject => some "map"
  | _ => none

/-- The fault of a value that begins with a token where another kind is expected. -/
def mismatch (expected : String) (t : Token) : Fault :=
  match describe t with
  | none => .malformed
  | some found => .wrongKind found expected

/-! ## Members -/

def readStatus : List Token → Except Fault (String × List Token)
  | [] => .error .malformed
  | .string (some text) :: rest => .ok (text, rest)
  | t :: _ => .error (mismatch "a string" t)

def readHit : List Token → Except Fault (UInt64 × List Token)
  | [] => .error .malformed
  | .number (.natural n) :: rest => .ok (UInt64.ofNat n, rest)
  | .number (.negative n) :: _ => .error (.belowZero n)
  | t :: _ => .error (mismatch "usize" t)

def afterColon : List Token → Except Fault (List Token)
  | .mark .colon :: rest => .ok rest
  | _ => .error .malformed

/-- The tokens after the value of a member that nobody asks for. -/
def skipMember (ts : List Token) : Except Fault (List Token) :=
  match ts with
  | .mark .colon :: rest =>
    match skipValue rest with
    | some rest => .ok rest
    | none => .error .malformed
  | _ => .error .malformed

/-- What was read of the members so far. -/
structure Members where
  status : Option String
  hit : Option UInt64
deriving Repr, DecidableEq

namespace Members

def none : Members := ⟨.none, .none⟩

/-- The health, once no more members come. -/
def conclude (m : Members) : Except Fault Health :=
  match m.status, m.hit with
  | .none, _ => .error (.missing statusKey)
  | _, .none => .error (.missing hitKey)
  | some status, some hit => .ok ⟨status, hit⟩

/-- Reads the rest of a member whose key is read. -/
def readMember (m : Members) (key : String) (ts : List Token) :
    Except Fault (Members × List Token) :=
  if key = statusKey then
    if m.status.isSome then .error (.duplicate key)
    else
      match afterColon ts with
      | .error fault => .error fault
      | .ok ts =>
        match readStatus ts with
        | .error fault => .error fault
        | .ok (status, rest) => .ok ({ m with status := some status }, rest)
  else if key = hitKey then
    if m.hit.isSome then .error (.duplicate key)
    else
      match afterColon ts with
      | .error fault => .error fault
      | .ok ts =>
        match readHit ts with
        | .error fault => .error fault
        | .ok (hit, rest) => .ok ({ m with hit := some hit }, rest)
  else
    match skipMember ts with
    | .error fault => .error fault
    | .ok rest => .ok (m, rest)

end Members

theorem readStatus_length {ts rest : List Token} {s : String}
    (h : readStatus ts = .ok (s, rest)) : rest.length < ts.length := by
  unfold readStatus at h
  split at h <;> simp at h
  obtain ⟨-, rfl⟩ := h
  simp

theorem readHit_length {ts rest : List Token} {n : UInt64}
    (h : readHit ts = .ok (n, rest)) : rest.length < ts.length := by
  unfold readHit at h
  split at h <;> simp at h
  obtain ⟨-, rfl⟩ := h
  simp

theorem afterColon_length {ts rest : List Token} (h : afterColon ts = .ok rest) :
    rest.length < ts.length := by
  unfold afterColon at h
  split at h <;> simp at h
  subst h
  simp

theorem skipMember_length {ts rest : List Token} (h : skipMember ts = .ok rest) :
    rest.length < ts.length := by
  unfold skipMember at h
  split at h
  · split at h <;> simp at h
    rename_i hs
    subst h
    exact Nat.lt_succ_of_lt (skipValue_length_lt hs)
  · simp at h

theorem readMember_length {m m' : Members} {key : String} {ts rest : List Token}
    (h : m.readMember key ts = .ok (m', rest)) : rest.length < ts.length := by
  unfold Members.readMember at h
  split at h
  · split at h
    · simp at h
    · split at h
      · simp at h
      · rename_i hc
        split at h
        · simp at h
        · rename_i hs
          simp at h
          obtain ⟨-, rfl⟩ := h
          exact Nat.lt_trans (readStatus_length hs) (afterColon_length hc)
  · split at h
    · split at h
      · simp at h
      · split at h
        · simp at h
        · rename_i hc
          split at h
          · simp at h
          · rename_i hs
            simp at h
            obtain ⟨-, rfl⟩ := h
            exact Nat.lt_trans (readHit_length hs) (afterColon_length hc)
    · split at h
      · simp at h
      · rename_i hs
        simp at h
        obtain ⟨-, rfl⟩ := h
        exact skipMember_length hs

/-! ## The whole text -/

/-- Reads the members that follow a comma, or the end of the object. -/
def readMore (m : Members) (ts : List Token) : Except Fault (Health × List Token) :=
  match ts with
  | .mark .closeObject :: rest => m.conclude.map (·, rest)
  | .mark .comma :: .string (some key) :: rest =>
    match _h : m.readMember key rest with
    | .error fault => .error fault
    | .ok (m', rest') => readMore m' rest'
  | _ => .error .malformed
termination_by ts.length
decreasing_by
  have := readMember_length _h
  simp
  omega

/-- Reads an object whose opening is read. -/
def readObject (ts : List Token) : Except Fault (Health × List Token) :=
  match ts with
  | .mark .closeObject :: rest => Members.none.conclude.map (·, rest)
  | .string (some key) :: rest =>
    match Members.none.readMember key rest with
    | .error fault => .error fault
    | .ok (m, rest) => readMore m rest
  | _ => .error .malformed

def betweenValues : List Token → Except Fault (List Token)
  | .mark .closeList :: _ => .error (.shortList 1)
  | .mark .comma :: .mark .closeList :: _ => .error .malformed
  | .mark .comma :: rest => .ok rest
  | _ => .error .malformed

def closeList : List Token → Except Fault (List Token)
  | .mark .closeList :: rest => .ok rest
  | _ => .error .malformed

/-- Reads a list whose opening is read. -/
def readList (ts : List Token) : Except Fault (Health × List Token) :=
  match ts with
  | .mark .closeList :: _ => .error (.shortList 0)
  | ts => do
    let (status, ts) ← readStatus ts
    let ts ← betweenValues ts
    let (hit, ts) ← readHit ts
    let ts ← closeList ts
    .ok (⟨status, hit⟩, ts)

/-- Reads a health at the start of the tokens. -/
def readValue : List Token → Except Fault (Health × List Token)
  | [] => .error .malformed
  | .mark .openObject :: rest => readObject rest
  | .mark .openList :: rest => readList rest
  | t :: _ => .error (mismatch "struct Health" t)

/-- Reads a health from tokens and nothing after it. -/
def ofTokens (ts : List Token) : Except Fault Health :=
  match readValue ts with
  | .error fault => .error fault
  | .ok (health, []) => .ok health
  | .ok (_, _ :: _) => .error .malformed

/-- Reads a health from JSON text. -/
def parse (text : String) : Except Fault Health :=
  ofTokens (Token.lex text.toList)

end Health

end Liveness

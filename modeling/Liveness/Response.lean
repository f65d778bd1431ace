/-!
# Answers to a request

An answer is a status and its headers in the order in which they came. Header names are
compared without regard to the case of ASCII letters; all other characters count as they
are.
-/

namespace Liveness

structure Response where
  status : UInt16
  headers : List (String × String)
deriving Repr, DecidableEq

/-- A text with its ASCII capitals made small. -/
def foldCase (s : String) : List Char :=
  s.toList.map Char.toLower

/-- Whether two texts differ at most in the case of ASCII letters. -/
def sameName (a b : String) : Bool :=
  foldCase a == foldCase b

theorem sameName_iff {a b : String} : sameName a b = true ↔ foldCase a = foldCase b := by
  simp [sameName]

namespace Response

def ofStatus (status : UInt16) : Response := ⟨status, []⟩

def goodStatus : UInt16 := 200

def isGood (r : Response) : Bool :=
  r.status == goodStatus

theorem isGood_iff {r : Response} : r.isGood = true ↔ r.status = 200 := beq_iff_eq

/-- The value of the first header with the name. -/
def header? (r : Response) (name : String) : Option String :=
  (r.headers.find? fun h => sameName h.1 name).map Prod.snd

end Response

end Liveness

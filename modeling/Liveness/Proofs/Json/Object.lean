import Liveness.Proofs.Json.Number
import Liveness.Proofs.Json.Quoted

/-!
# Objects of whole numbers

An object whose members are whole numbers is written as one line, and what is read from that line
are the members in their order. Read as tokens, the text of a member is its key, a colon and its
number: nothing in a plain key ends the key, and the digits of a number end where the next mark
stands.
-/

namespace Liveness

namespace Json

open Numeral

/-! ## Writing and reading -/

/-- Whether a character stands for itself in a key. -/
def isPlain (c : Char) : Bool := c ≠ '"' && c ≠ '\\' && 0x20 ≤ c.toNat

def memberChars (m : String × Nat) : List Char :=
  '"' :: (m.1.toList ++ '"' :: ':' :: decimalChars m.2)

/-- The text of some members, the first of which is `m`, and of the end of their object. -/
def membersChars (m : String × Nat) : List (String × Nat) → List Char
  | [] => memberChars m ++ ['\x7d']
  | m' :: ms => memberChars m ++ ',' :: membersChars m' ms

def objectChars : List (String × Nat) → List Char
  | [] => ['\x7b', '\x7d']
  | m :: ms => '\x7b' :: membersChars m ms

/-- Reads members up to the end of their object, which is to be the end of the text. -/
def readMembers : List Token → Option (List (String × Nat))
  | [.string (some key), .mark .colon, .number (.natural n), .mark .closeObject] =>
    some [(key, n)]
  | .string (some key) :: .mark .colon :: .number (.natural n) :: .mark .comma :: rest =>
    (readMembers rest).map ((key, n) :: ·)
  | _ => none

def readObject : List Token → Option (List (String × Nat))
  | [.mark .openObject, .mark .closeObject] => some []
  | .mark .openObject :: rest => readMembers rest
  | _ => none

/-- The members of the object that a text holds, if they are whole numbers. -/
def members? (text : String) : Option (List (String × Nat)) :=
  readObject (Token.lex text.toList)

namespace Token

/-! ## Keys -/

theorem arePieces_plain {cs : List Char} (h : ∀ c ∈ cs, isPlain c = true) : ArePieces cs cs := by
  induction cs with
  | nil => exact .nil
  | cons c cs ih =>
      obtain ⟨hc, hcs⟩ := List.forall_mem_cons.mp h
      simp only [isPlain, Bool.and_eq_true, decide_eq_true_eq] at hc
      exact .cons (.plain hc.1.1 hc.1.2 hc.2) (ih hcs)

/-! ## Members -/

def memberTokens (m : String × Nat) : List Token :=
  [.string (some m.1), .mark .colon, .number (.natural m.2)]

theorem lexFrom_member {m : String × Nat} (hkey : ∀ c ∈ m.1.toList, isPlain c = true)
    (hn : m.2 ≤ wordLimit) {c : Char} (hc : EndsNumber c) (rest : List Char) :
    lexFrom .gap (memberChars m ++ c :: rest) = memberTokens m ++ lexFrom .gap (c :: rest) := by
  have hcolon : stepGap ':' = ([.mark .colon], .gap) := by decide
  have hstring := reads_string (.mk (arePieces_plain hkey))
  have htext : memberChars m ++ c :: rest = ('"' :: (m.1.toList ++ ['"']))
      ++ (':' :: (decimalChars m.2 ++ c :: rest)) := by
    simp only [memberChars, List.cons_append, List.append_assoc, List.nil_append]
  rw [htext, hstring, lexFrom_mark hcolon, lexFrom_numeral hn hc]
  rfl

/-- Members are read as they were written. -/
theorem readMembers_lexFrom {m : String × Nat} {ms : List (String × Nat)}
    (hkeys : ∀ m' ∈ m :: ms, ∀ c ∈ m'.1.toList, isPlain c = true)
    (hfit : ∀ m' ∈ m :: ms, m'.2 ≤ wordLimit) :
    readMembers (lexFrom .gap (membersChars m ms)) = some (m :: ms) := by
  induction ms generalizing m with
  | nil =>
      rw [membersChars, lexFrom_member (hkeys m (List.mem_singleton_self m))
        (hfit m (List.mem_singleton_self m)) endsNumber_closeObject]
      rfl
  | cons m' ms ih =>
      have hgap : stepGap ',' = ([.mark .comma], .gap) := by decide
      have hrest := ih (fun m hm => hkeys m (List.mem_cons_of_mem _ hm))
        fun m hm => hfit m (List.mem_cons_of_mem _ hm)
      rw [membersChars, lexFrom_member (hkeys m (List.mem_cons_self ..))
        (hfit m (List.mem_cons_self ..)) endsNumber_comma, lexFrom_mark hgap]
      exact congrArg (Option.map (m :: ·)) hrest

end Token

open Token

/-- The text of an object gives its members back. -/
theorem members?_objectChars {ms : List (String × Nat)}
    (hkeys : ∀ m ∈ ms, ∀ c ∈ m.1.toList, isPlain c = true) (hfit : ∀ m ∈ ms, m.2 ≤ wordLimit) :
    members? (String.ofList (objectChars ms)) = some ms := by
  rw [members?, String.toList_ofList]
  cases ms with
  | nil => rfl
  | cons m ms =>
      have hopen : stepGap '\x7b' = ([.mark .openObject], .gap) := by decide
      rw [objectChars, lex, lexFrom_mark hopen, readObject]
      · exact readMembers_lexFrom hkeys hfit
      · intro h
        have hread := readMembers_lexFrom hkeys hfit
        rw [h] at hread
        cases hread

theorem newline_not_mem_memberChars {m : String × Nat}
    (hkey : ∀ c ∈ m.1.toList, isPlain c = true) : '\n' ∉ memberChars m := by
  have hdigits : '\n' ∉ decimalChars m.2 := by
    intro hmem
    obtain ⟨d, hd⟩ := exists_digit?_of_mem_decimalChars hmem
    cases hd
  have hplain : '\n' ∉ m.1.toList := fun hmem => absurd (hkey _ hmem) (by decide)
  simp [memberChars, hdigits, hplain]

theorem newline_not_mem_membersChars {m : String × Nat} {ms : List (String × Nat)}
    (hkeys : ∀ m' ∈ m :: ms, ∀ c ∈ m'.1.toList, isPlain c = true) :
    '\n' ∉ membersChars m ms := by
  induction ms generalizing m with
  | nil =>
      have hfirst := newline_not_mem_memberChars (hkeys m (List.mem_singleton_self m))
      simp [membersChars, hfirst]
  | cons m' ms ih =>
      have hfirst := newline_not_mem_memberChars (hkeys m (List.mem_cons_self ..))
      have hrest := ih fun m hm => hkeys m (List.mem_cons_of_mem _ hm)
      simp [membersChars, hfirst, hrest]

/-- An object is written on one line. -/
theorem newline_not_mem_objectChars {ms : List (String × Nat)}
    (hkeys : ∀ m ∈ ms, ∀ c ∈ m.1.toList, isPlain c = true) : '\n' ∉ objectChars ms := by
  cases ms with
  | nil => simp [objectChars]
  | cons m ms => simp [objectChars, newline_not_mem_membersChars hkeys]

end Json

end Liveness

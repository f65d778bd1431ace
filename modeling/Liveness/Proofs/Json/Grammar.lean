import Liveness.Json.Token

/-!
# The grammar of JSON

What texts stand for what values, without regard to how a text is read. A value may be written in
many ways: white space may stand around values, keys and marks, and a character of a string may be
written by itself, by a letter, or by its number, as a pair of surrogates if four digits are too few
for it. An object is a list of members, so their order and keys that come twice are kept, and a
number is kept as it is written.
-/

namespace Liveness

namespace Json

/-! ## White space and words -/

/-- Blanks, tabulators, line feeds and carriage returns, any number of them. -/
def IsBlank (cs : List Char) : Prop :=
  ∀ c ∈ cs, c = ' ' ∨ c = '\t' ∨ c = '\n' ∨ c = '\r'

def Word.chars : Word → List Char
  | .null => ['n', 'u', 'l', 'l']
  | .true => ['t', 'r', 'u', 'e']
  | .false => ['f', 'a', 'l', 's', 'e']

/-! ## Numbers -/

/-- One or more digits of ASCII. -/
def IsDigits (cs : List Char) : Prop :=
  cs ≠ [] ∧ ∀ c ∈ cs, c.isDigit = true

/-- Digits without a zero in front, unless it is the only digit. -/
inductive IsWhole : List Char → Prop where
  | zero : IsWhole ['0']
  | digits {c : Char} {cs : List Char} (hne : c ≠ '0') (h : IsDigits (c :: cs)) : IsWhole (c :: cs)

theorem IsWhole.isDigits {cs : List Char} (h : IsWhole cs) : IsDigits cs := by
  cases h with
  | zero => exact ⟨List.cons_ne_nil _ _, List.forall_mem_singleton.mpr rfl⟩
  | digits _ h => exact h

/-- Nothing, or a point and digits. -/
inductive IsFraction : List Char → Prop where
  | none : IsFraction []
  | some {cs : List Char} (h : IsDigits cs) : IsFraction ('.' :: cs)

/-- Nothing, or the letter of a power of ten, a sign or none, and digits. -/
inductive IsPower : List Char → Prop where
  | none : IsPower []
  | some {e : Char} {sign cs : List Char} (he : e = 'e' ∨ e = 'E')
      (hsign : sign = [] ∨ sign = ['+'] ∨ sign = ['-']) (h : IsDigits cs) :
      IsPower (e :: (sign ++ cs))

/-- The text of a number. -/
inductive IsNumber : List Char → Prop where
  | mk {minus whole fraction power : List Char} (hminus : minus = [] ∨ minus = ['-'])
      (hwhole : IsWhole whole) (hfraction : IsFraction fraction) (hpower : IsPower power) :
      IsNumber (minus ++ (whole ++ (fraction ++ power)))

/-! ## Strings -/

/-- The characters that may be written by a letter, and the letter. -/
def letters : List (Char × Char) :=
  [('"', '"'), ('\\', '\\'), ('/', '/'), ('\x08', 'b'), ('\x0c', 'f'), ('\n', 'n'), ('\r', 'r'),
    ('\t', 't')]

/-- A hexadecimal digit, small or capital. -/
inductive IsHex : Char → Nat → Prop where
  | small {d : Nat} (h : d < 16) : IsHex (Numeral.digitChar d) d
  | capital {d : Nat} (h : d < 16) : IsHex (Numeral.digitChar d).toUpper d

/-- Four hexadecimal digits and their value. -/
inductive IsCode : List Char → Nat → Prop where
  | mk {a b c d : Char} {i j k l : Nat} (ha : IsHex a i) (hb : IsHex b j) (hc : IsHex c k)
      (hd : IsHex d l) : IsCode [a, b, c, d] (16 * (16 * (16 * i + j) + k) + l)

/-- The ways to write a character in a string. -/
inductive IsPiece (c : Char) : List Char → Prop where
  | plain (hquote : c ≠ '"') (hbackslash : c ≠ '\\') (hcontrol : 0x20 ≤ c.toNat) : IsPiece c [c]
  | letter {l : Char} (h : (c, l) ∈ letters) : IsPiece c ['\\', l]
  | code {ds : List Char} (h : IsCode ds c.toNat) : IsPiece c ('\\' :: 'u' :: ds)
  | pair {ds es : List Char} {high low : Nat} (hhigh : IsCode ds high) (hlow : IsCode es low)
      (hfirst : 0xd800 ≤ high ∧ high ≤ 0xdbff) (hsecond : 0xdc00 ≤ low ∧ low ≤ 0xdfff)
      (hvalue : c.toNat = 0x10000 + (high - 0xd800) * 0x400 + (low - 0xdc00)) :
      IsPiece c ('\\' :: 'u' :: (ds ++ '\\' :: 'u' :: es))

/-- Characters, each written in some way. -/
inductive ArePieces : List Char → List Char → Prop where
  | nil : ArePieces [] []
  | cons {c : Char} {cs piece text : List Char} (h : IsPiece c piece) (more : ArePieces cs text) :
      ArePieces (c :: cs) (piece ++ text)

/-- A string and its text. -/
inductive IsString (s : String) : List Char → Prop where
  | mk {text : List Char} (h : ArePieces s.toList text) : IsString s ('"' :: (text ++ ['"']))

/-! ## Values -/

inductive Value where
  | word (w : Word)
  /-- a number, as it is written -/
  | number (literal : List Char)
  | string (text : String)
  | list (items : List Value)
  | object (members : List (String × Value))

/-- What the grammar has texts for. -/
inductive Node where
  | value (v : Value)
  /-- a value with white space around it -/
  | item (v : Value)
  | member (m : String × Value)
  /-- items of a list, each after a comma -/
  | items (vs : List Value)
  /-- members of an object, each after a comma -/
  | members (ms : List (String × Value))

/-- A node is written as a text. -/
inductive Written : Node → List Char → Prop where
  | word (w : Word) : Written (.value (.word w)) w.chars
  | number {literal : List Char} (h : IsNumber literal) :
      Written (.value (.number literal)) literal
  | string {s : String} {text : List Char} (h : IsString s text) :
      Written (.value (.string s)) text
  | emptyList {blank : List Char} (h : IsBlank blank) :
      Written (.value (.list [])) ('[' :: (blank ++ [']']))
  | list {v : Value} {vs : List Value} {first more : List Char} (hfirst : Written (.item v) first)
      (hmore : Written (.items vs) more) :
      Written (.value (.list (v :: vs))) ('[' :: (first ++ (more ++ [']'])))
  | emptyObject {blank : List Char} (h : IsBlank blank) :
      Written (.value (.object [])) ('\x7b' :: (blank ++ ['\x7d']))
  | object {m : String × Value} {ms : List (String × Value)} {first more : List Char}
      (hfirst : Written (.member m) first) (hmore : Written (.members ms) more) :
      Written (.value (.object (m :: ms))) ('\x7b' :: (first ++ (more ++ ['\x7d'])))
  | item {v : Value} {before text after : List Char} (hbefore : IsBlank before)
      (h : Written (.value v) text) (hafter : IsBlank after) :
      Written (.item v) (before ++ (text ++ after))
  | member {key : String} {v : Value} {before text after item : List Char}
      (hbefore : IsBlank before) (hkey : IsString key text) (hafter : IsBlank after)
      (h : Written (.item v) item) :
      Written (.member (key, v)) (before ++ (text ++ (after ++ ':' :: item)))
  | noItems : Written (.items []) []
  | items {v : Value} {vs : List Value} {first more : List Char} (hfirst : Written (.item v) first)
      (hmore : Written (.items vs) more) : Written (.items (v :: vs)) (',' :: (first ++ more))
  | noMembers : Written (.members []) []
  | members {m : String × Value} {ms : List (String × Value)} {first more : List Char}
      (hfirst : Written (.member m) first) (hmore : Written (.members ms) more) :
      Written (.members (m :: ms)) (',' :: (first ++ more))

/-- A text that is an object with some members, and white space around it. -/
def IsObject (text : String) (members : List (String × Value)) : Prop :=
  Written (.item (.object members)) text.toList

/-- Each member of an object was written with a value. -/
theorem written_of_members {ms : List (String × Value)} {text : List Char}
    (h : Written (.members ms) text) : ∀ member ∈ ms, ∃ text, Written (.item member.2) text := by
  induction ms generalizing text with
  | nil => exact fun _ => List.not_mem_nil.elim
  | cons member ms ih =>
      cases h with
      | members hfirst hmore =>
          refine List.forall_mem_cons.mpr ⟨?_, ih hmore⟩
          cases hfirst with
          | member _ _ _ h => exact ⟨_, h⟩

theorem written_of_isObject {ms : List (String × Value)} {text : String} (h : IsObject text ms) :
    ∀ member ∈ ms, ∃ text, Written (.item member.2) text := by
  rw [IsObject] at h
  generalize text.toList = chars at h
  cases h with
  | item _ h _ =>
      cases h with
      | emptyObject => exact fun _ => List.not_mem_nil.elim
      | object hfirst hmore => exact written_of_members (.members hfirst hmore)

end Json

end Liveness

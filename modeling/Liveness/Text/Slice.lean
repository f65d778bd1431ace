import Liveness.Text.Quoted
import Liveness.Text.Utf8

/-!
# Slices of texts

A slice is given by the offsets of its bytes. An offset inside a character cuts nothing out:
it is reported with the character that it would split, the start of the slice before its
end.
-/

namespace Liveness

namespace Utf8

/-- A character that an offset would split. -/
structure Split where
  /-- whether the offset is that of the start of the slice -/
  atStart : Bool
  offset : Nat
  char : Char
  /-- the offset of the character -/
  first : Nat
deriving Repr, DecidableEq

def Split.message (s : Split) : String :=
  (if s.atStart then "start" else "end") ++ " byte index " ++ Numeral.decimal s.offset
    ++ " is not a char boundary; it is inside '" ++ String.ofList (Quoted.escape s.char)
    ++ "' (bytes " ++ Numeral.decimal s.first ++ ".."
    ++ Numeral.decimal (s.first + s.char.utf8Size) ++ " of string)"

/-- The character that lies across an offset, and where it begins; the text begins at
`first`. -/
def across? (offset : Nat) : Nat → List Char → Option (Char × Nat)
  | _, [] => none
  | first, c :: cs =>
    if offset ≤ first then none
    else if offset < first + c.utf8Size then some (c, first)
    else across? offset (first + c.utf8Size) cs

/-- The characters that begin at the given offset or later. -/
def dropTo (offset : Nat) : Nat → List Char → List Char
  | _, [] => []
  | first, c :: cs => if offset ≤ first then c :: cs else dropTo offset (first + c.utf8Size) cs

/-- The characters that begin before the given offset. -/
def takeTo (offset : Nat) : Nat → List Char → List Char
  | _, [] => []
  | first, c :: cs => if offset ≤ first then [] else c :: takeTo offset (first + c.utf8Size) cs

/-- The bytes of a text from offset `first` up to offset `last`. -/
def slice (first last : Nat) (cs : List Char) : Except Split (List Char) :=
  match across? first 0 cs, across? last 0 cs with
  | some (c, begins), _ => .error ⟨true, first, c, begins⟩
  | none, some (c, begins) => .error ⟨false, last, c, begins⟩
  | none, none => .ok (dropTo first 0 (takeTo last 0 cs))

end Utf8

end Liveness

import Liveness.Json.Skip
import Liveness.Proofs.Json.Number
import Liveness.Proofs.Json.Quoted

/-!
# Values read and skipped

Every text of a value is read as the tokens of the value, whatever white space stands in it and
however its strings are written, and who skips a value meets its end where it ends, however deep it
is nested. Both are shown by one induction on the grammar, for each of its nodes. For the tokens the
point is that every part of a text is followed by something that ends a number. For skipping it is
that a node leaves the containers open that were open before it.
-/

namespace Liveness

namespace Json

open Token

/-! ## Tokens of a value -/

mutual

def Value.tokens : Value → List Token
  | .word w => [.word w]
  | .number literal => lex literal
  | .string s => [.string (some s)]
  | .list vs => .mark .openList :: ((itemsTokens vs).tail ++ [.mark .closeList])
  | .object ms => .mark .openObject :: ((membersTokens ms).tail ++ [.mark .closeObject])

/-- The tokens of some items, each after a comma. -/
def itemsTokens : List Value → List Token
  | [] => []
  | v :: vs => .mark .comma :: (v.tokens ++ itemsTokens vs)

/-- The tokens of some members, each after a comma. -/
def membersTokens : List (String × Value) → List Token
  | [] => []
  | (key, v) :: ms =>
    .mark .comma :: .string (some key) :: .mark .colon :: (v.tokens ++ membersTokens ms)

end

def Node.tokens : Node → List Token
  | .value v => v.tokens
  | .item v => v.tokens
  | .member (key, v) => .string (some key) :: .mark .colon :: v.tokens
  | .items vs => itemsTokens vs
  | .members ms => membersTokens ms

variable {node : Node} {v : Value} {vs : List Value} {ms : List (String × Value)}
  {text rest literal : List Char}

/-! ## Reading -/

theorem atEnd_nil : AtEnd [] := by
  rintro _ ⟨⟩

theorem lex_number (h : IsNumber literal) : ∃ number : Number, lex literal = [.number number]
    ∧ (∀ rest, AtEnd rest →
      lexFrom .gap (literal ++ rest) = .number number :: lexFrom .gap rest)
    ∧ ∀ n, number = .natural n ↔ Numeral.IsNumeral literal n ∧ n ≤ wordLimit := by
  obtain ⟨number, hlex, hnatural⟩ := lexFrom_number h
  have halone := hlex [] atEnd_nil
  rw [List.append_nil] at halone
  exact ⟨number, halone, hlex, hnatural⟩

theorem atEnd_items (h : Written (.items vs) text) (hrest : AtEnd rest) :
    AtEnd (text ++ rest) := by
  cases h with
  | noItems => exact hrest
  | items => exact atEnd_cons endsNumber_comma _

theorem atEnd_members (h : Written (.members ms) text) (hrest : AtEnd rest) :
    AtEnd (text ++ rest) := by
  cases h with
  | noMembers => exact hrest
  | members => exact atEnd_cons endsNumber_comma _

/-- A text is read as the tokens of what it is the text of. -/
theorem lexFrom_written (h : Written node text) (hrest : AtEnd rest) :
    lexFrom .gap (text ++ rest) = node.tokens ++ lexFrom .gap rest := by
  have hopenList : stepGap '[' = ([.mark .openList], .gap) := by decide
  have hcloseList : stepGap ']' = ([.mark .closeList], .gap) := by decide
  have hopenObject : stepGap '\x7b' = ([.mark .openObject], .gap) := by decide
  have hcloseObject : stepGap '\x7d' = ([.mark .closeObject], .gap) := by decide
  have hcomma : stepGap ',' = ([.mark .comma], .gap) := by decide
  have hcolon : stepGap ':' = ([.mark .colon], .gap) := by decide
  induction h generalizing rest with
  | word w => exact reads_word w rest
  | number h =>
      obtain ⟨number, halone, hlex, -⟩ := lex_number h
      rw [hlex rest hrest, Node.tokens, Value.tokens, halone]
      rfl
  | string h => exact reads_string h rest
  | emptyList h =>
      rw [List.cons_append, lexFrom_mark hopenList, List.append_assoc, reads_blank h,
        List.singleton_append, lexFrom_mark hcloseList]
      rfl
  | list _ hmore ihfirst ihmore =>
      have hend := atEnd_cons endsNumber_closeList rest
      rw [List.cons_append, lexFrom_mark hopenList, List.append_assoc, List.append_assoc,
        List.singleton_append, ihfirst (atEnd_items hmore hend), ihmore hend,
        lexFrom_mark hcloseList]
      simp [Node.tokens, Value.tokens, itemsTokens]
  | emptyObject h =>
      rw [List.cons_append, lexFrom_mark hopenObject, List.append_assoc, reads_blank h,
        List.singleton_append, lexFrom_mark hcloseObject]
      rfl
  | @object m _ _ _ _ hmore ihfirst ihmore =>
      have hend := atEnd_cons endsNumber_closeObject rest
      rw [List.cons_append, lexFrom_mark hopenObject, List.append_assoc, List.append_assoc,
        List.singleton_append, ihfirst (atEnd_members hmore hend), ihmore hend,
        lexFrom_mark hcloseObject]
      simp [Node.tokens, Value.tokens, membersTokens]
  | item hbefore _ hafter ih =>
      rw [List.append_assoc, List.append_assoc, reads_blank hbefore, ih (atEnd_blank hafter hrest),
        reads_blank hafter]
      rfl
  | member hbefore hkey hafter _ ih =>
      rw [List.append_assoc, List.append_assoc, List.append_assoc, List.cons_append,
        reads_blank hbefore, reads_string hkey, reads_blank hafter, lexFrom_mark hcolon, ih hrest]
      rfl
  | noItems => rfl
  | items _ hmore ihfirst ihmore =>
      rw [List.cons_append, lexFrom_mark hcomma, List.append_assoc,
        ihfirst (atEnd_items hmore hrest), ihmore hrest]
      simp [Node.tokens, itemsTokens]
  | noMembers => rfl
  | @members m _ _ _ _ hmore ihfirst ihmore =>
      rw [List.cons_append, lexFrom_mark hcomma, List.append_assoc,
        ihfirst (atEnd_members hmore hrest), ihmore hrest]
      simp [Node.tokens, membersTokens]

/-- The tokens of an object and of the white space around it are those of the object. -/
theorem lex_of_isObject {text : String} (h : IsObject text ms) :
    lex text.toList = (Value.object ms).tokens := by
  have hlex := lexFrom_written h atEnd_nil
  rwa [List.append_nil, Node.tokens, lexFrom, finish, List.append_nil] at hlex

/-! ## Skipping -/

/-- What may come before a node is skipped. -/
def Node.mode : Node → Skip.Mode
  | .value _ => .value
  | .item _ => .value
  | .member _ => .key
  | .items _ => .afterValue
  | .members _ => .afterValue

/-- The container in which a node stands, if it stands in one. -/
def Node.frame : Node → List Frame
  | .value _ => []
  | .item _ => []
  | .member _ => [.object]
  | .items _ => [.list]
  | .members _ => [.object]

theorem Skip.run_first {t : Token} (h : t ≠ .mark .closeList) (stack : List Frame)
    (ts : List Token) :
    Skip.run .first (.list :: stack) (t :: ts) = Skip.run .value (.list :: stack) (t :: ts) := by
  simp only [Skip.run, Skip.step, if_neg h]

/-- No value begins like the end of a list. -/
theorem run_item (h : Written (.item v) text) (stack : List Frame) (ts : List Token) :
    Skip.run .first (.list :: stack) (v.tokens ++ ts)
      = Skip.run .value (.list :: stack) (v.tokens ++ ts) := by
  cases h with
  | item _ h _ =>
      cases h with
      | number h =>
          obtain ⟨number, halone, -⟩ := lex_number h
          rw [Value.tokens, halone]
          exact Skip.run_first (by rintro ⟨⟩) stack ts
      | _ => exact Skip.run_first (by rintro ⟨⟩) stack _

/-- Who skips a node comes to its end, with the containers open that were open before. -/
theorem run_written (h : Written node text) (stack : List Frame) (ts : List Token) :
    Skip.run node.mode (node.frame ++ stack) (node.tokens ++ ts)
      = Skip.run .afterValue (node.frame ++ stack) ts := by
  induction h generalizing stack ts with
  | word w => rfl
  | number h =>
      obtain ⟨number, halone, -⟩ := lex_number h
      rw [Node.tokens, Value.tokens, halone]
      rfl
  | string h => rfl
  | emptyList _ => rfl
  | @list v vs _ _ hfirst _ ihfirst ihmore =>
      let closing := .mark .closeList :: ts
      have htokens : (Node.value (.list (v :: vs))).tokens ++ ts
          = .mark .openList :: (v.tokens ++ (itemsTokens vs ++ closing)) := by
        simp [Node.tokens, Value.tokens, itemsTokens, closing]
      calc
        _ = Skip.run .value stack (.mark .openList :: (v.tokens ++ (itemsTokens vs ++ closing))) :=
          congrArg (Skip.run .value stack) htokens
        _ = Skip.run .first (.list :: stack) (v.tokens ++ (itemsTokens vs ++ closing)) := rfl
        _ = Skip.run .value (.list :: stack) (v.tokens ++ (itemsTokens vs ++ closing)) :=
          run_item hfirst stack _
        _ = Skip.run .afterValue (.list :: stack) (itemsTokens vs ++ closing) :=
          ihfirst (.list :: stack) _
        _ = Skip.run .afterValue (.list :: stack) closing := ihmore stack _
        _ = Skip.run .afterValue stack ts := rfl
  | emptyObject _ => rfl
  | @object m ms _ _ _ _ ihfirst ihmore =>
      let closing := .mark .closeObject :: ts
      have htokens : (Node.value (.object (m :: ms))).tokens ++ ts
          = .mark .openObject :: ((Node.member m).tokens ++ (membersTokens ms ++ closing)) := by
        simp [Node.tokens, Value.tokens, membersTokens, closing]
      calc
        _ = Skip.run .value stack
            (.mark .openObject :: ((Node.member m).tokens ++ (membersTokens ms ++ closing))) :=
          congrArg (Skip.run .value stack) htokens
        _ = Skip.run .key (.object :: stack)
            ((Node.member m).tokens ++ (membersTokens ms ++ closing)) := rfl
        _ = Skip.run .afterValue (.object :: stack) (membersTokens ms ++ closing) :=
          ihfirst stack _
        _ = Skip.run .afterValue (.object :: stack) closing := ihmore stack _
        _ = Skip.run .afterValue stack ts := rfl
  | item _ _ _ ih => exact ih stack ts
  | member _ _ _ _ ih => exact ih (.object :: stack) ts
  | noItems => rfl
  | @items v vs _ _ _ _ ihfirst ihmore =>
      have htokens : (Node.items (v :: vs)).tokens ++ ts
          = .mark .comma :: (v.tokens ++ (itemsTokens vs ++ ts)) := by
        simp [Node.tokens, itemsTokens]
      rw [htokens]
      exact (ihfirst (.list :: stack) _).trans (ihmore stack ts)
  | noMembers => rfl
  | @members m ms _ _ _ _ ihfirst ihmore =>
      have htokens : (Node.members (m :: ms)).tokens ++ ts
          = .mark .comma :: ((Node.member m).tokens ++ (membersTokens ms ++ ts)) := by
        simp [Node.tokens, membersTokens]
      rw [htokens]
      exact (ihfirst stack _).trans (ihmore stack ts)

/-- What is left when a value is skipped is what came after it. -/
theorem skipValue_tokens (h : Written (.item v) text) (ts : List Token) :
    skipValue (v.tokens ++ ts) = some ts := by
  have hrun := run_written h [] ts
  have hend : Skip.run .afterValue [] ts = some ts := by
    cases ts <;> rfl
  exact hrun.trans hend

end Json

end Liveness

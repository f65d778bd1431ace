import Liveness.Proofs.Json.Grammar

/-!
# Reading texts one after the other

What the lexer makes of a text is said for any text that follows: in some state it gives tokens, and
the rest is read in another state. Said so, texts that follow each other are read one after the
other. White space gives no token; words and marks give one and end themselves.
-/

namespace Liveness

namespace Json

namespace Token

variable {a b d : State} {cs cs' : List Char} {ts ts' : List Token} {c : Char}

/-- Whatever follows, the text gives the tokens and leads from one state to the other. -/
def Reads (a : State) (cs : List Char) (ts : List Token) (b : State) : Prop :=
  ∀ rest, lexFrom a (cs ++ rest) = ts ++ lexFrom b rest

theorem Reads.nil (a : State) : Reads a [] [] a := fun _ => rfl

theorem Reads.append (h : Reads a cs ts b) (h' : Reads b cs' ts' d) :
    Reads a (cs ++ cs') (ts ++ ts') d := by
  intro rest
  rw [List.append_assoc, h, h', List.append_assoc]

theorem reads_step (h : step c a = (ts, b)) : Reads a [c] ts b := by
  intro rest
  rw [List.singleton_append, lexFrom, h]

theorem Reads.cons (h : step c a = ([], b)) (h' : Reads b cs ts d) : Reads a (c :: cs) ts d :=
  (reads_step h).append h'

/-! ## White space, words and marks -/

theorem isSpace_of_blank (h : c = ' ' ∨ c = '\t' ∨ c = '\n' ∨ c = '\r') : isSpace c = true := by
  rcases h with rfl | rfl | rfl | rfl <;> decide

theorem reads_blank (h : IsBlank cs) : Reads .gap cs [] .gap := by
  induction cs with
  | nil => exact .nil .gap
  | cons c cs ih =>
      obtain ⟨hc, hcs⟩ := List.forall_mem_cons.mp h
      have hstep : step c .gap = ([], .gap) := by
        rw [step, stepGap, if_pos (isSpace_of_blank hc)]
      exact .cons hstep (ih hcs)

theorem reads_word (w : Word) : Reads .gap w.chars [.word w] .gap := by
  intro rest
  cases w <;> rfl

theorem lexFrom_mark {m : Mark} (h : stepGap c = ([.mark m], .gap)) (rest : List Char) :
    lexFrom .gap (c :: rest) = .mark m :: lexFrom .gap rest :=
  reads_step (a := .gap) h rest

end Token

end Json

end Liveness

import Liveness.Fault

/-!
# Failures as the user sees them

A failure is a chain of links: what was being done, and below it the causes. It can be
shown by its first link, on one line, or as a report with one cause under the other.
-/

namespace Liveness

structure Failure where
  head : String
  causes : List String
deriving Repr, DecidableEq

namespace Failure

/-- The links of the chain, the outermost first. -/
def links (f : Failure) : List String := f.head :: f.causes

/-- A fault with what stands behind it. -/
def ofFault (f : Fault) : Failure :=
  ⟨f.message, f.cause?.toList.map OsError.message⟩

/-- Says what was being done when the failure arose. -/
def within (context : String) (f : Failure) : Failure :=
  ⟨context, f.links⟩

def inline (f : Failure) : String :=
  ": ".intercalate f.links

/-! ## Report -/

/-- A text with something put in front of each of its lines but the first. -/
def indentRest (margin : String) (text : String) : String :=
  String.ofList (text.toList.flatMap fun c => if c = '\n' then '\n' :: margin.toList else [c])

/-- The number of a cause, in a column of five. -/
def causeNumber (n : Nat) : String :=
  let digits := Numeral.decimalChars n
  String.ofList (List.replicate (5 - digits.length) ' ' ++ digits)

def numberedCause (n : Nat) (cause : String) : String :=
  causeNumber n ++ ": " ++ indentRest "       " cause

/-- The causes under the first link: a single one as it is, several with numbers. -/
def report (f : Failure) : String :=
  match f.causes with
  | [] => f.head
  | [cause] => f.head ++ "\n\nCaused by:\n    " ++ indentRest "    " cause
  | causes =>
    f.head ++ "\n\nCaused by:\n"
      ++ "\n".intercalate (causes.mapIdx fun n cause => numberedCause n cause)

end Failure

end Liveness

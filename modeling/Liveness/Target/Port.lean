import Liveness.Text.Blank
import Liveness.Text.Numeral

/-!
# The port of a target

A target listens on a port of a fixed range, given as text: white space around it does not
count.
-/

namespace Liveness

namespace Port

def lowest : Nat := 1500

def highest : Nat := 10000

def parse? (text : String) : Option UInt16 :=
  match Numeral.readNat (UInt16.size - 1) (trim text.toList) with
  | .error _ => none
  | .ok n => if lowest ≤ n ∧ n ≤ highest then some (UInt16.ofNat n) else none

end Port

end Liveness

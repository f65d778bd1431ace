import Liveness.Proofs.FrontEnd.Truncation

/-!
# What becomes of a configuration that breaks a rule

Whoever is asked to probe looks at the configuration first. If it breaks a rule nothing else
happens: no call, no worker, no outcome handed over, nothing shown, nothing recorded but that a
front end was asked to run. All that comes back is the rule. If it breaks none, nobody reports a
configuration as invalid on its own account. A transport may report that, and then it is the answer
to a single request; the one fault that a batch reports then is that a worker could not be started.

The front ends tell their failures as texts, so what they report is traced back to a fault by the
first characters of the messages, which differ from fault to fault.
-/

namespace Liveness

namespace Fault

/-! ## Faults by their messages -/

end Fault

namespace Prober

variable {S C K : Type} {p : Prober S C} {res : Pool.Resources}

/-! ## Accepted configurations -/

end Prober

namespace FrontEnd

variable {S C : Type} {p : Prober S C} {res : Pool.Resources}

/-! ## What front ends report -/

end FrontEnd

end Liveness

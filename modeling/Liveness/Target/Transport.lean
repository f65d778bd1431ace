import Liveness.Probe.Transport
import Liveness.Target.Router

/-!
# Probing a target directly

A target can be probed without a network: each request is handed to its router. The hit is
counted when the request is sent, and the answer is made from its number when it is
received, so requests under way at the same time never share a hit.
-/

namespace Liveness

namespace Target

/-- The transport whose every request is one GET of the root of a target. -/
def transport : Transport Target Nat where
  send _ t := t.count
  receive hit t :=
    (.returned (.ok (Response.ofStatus (statusFor t.behavior hit).value)), t)

def rootRequest : Request := ⟨"GET", ⟨none, "", "/", none⟩⟩

theorem route_rootRequest : Router.route rootRequest = .served true := by
  simp [Router.route, rootRequest, Uri.path]

/-- Sending and receiving together do what the router does with the request. -/
theorem handle_rootRequest (t : Target) :
    Router.handle t rootRequest
      = (reply t.behavior t.count.1, t.count.2,
          some (.served t.count.1 (statusFor t.behavior t.count.1).value)) := by
  simp [Router.handle, route_rootRequest, count, reply]

end Target

end Liveness

import Liveness.Log.Notice
import Liveness.Target.Basic

/-!
# Which requests reach the target

The target sits at the root path and is reached by the methods GET and HEAD; to HEAD it
answers without the body. Another method at the root is not allowed, and any other path is
not found; such requests do not count as hits.
-/

namespace Liveness

namespace Router

inductive Route where
  | served (withBody : Bool)
  | wrongMethod
  | wrongPath
  /-- the uri has no path at all, so there is nothing to look for -/
  | noPath
deriving Repr, DecidableEq

def route (r : Request) : Route :=
  if r.uri.path = "/" then
    if r.method = "GET" then .served true
    else if r.method = "HEAD" then .served false
    else .wrongMethod
  else if r.uri.path.toList.head? = some '/' then .wrongPath
  else .noPath

/-- The reply to a request that is not served. -/
def refusal : Route → Reply
  | .wrongMethod =>
    ⟨.methodNotAllowed, [("allow", "GET,HEAD"), ("content-length", "0")], ""⟩
  | .noPath => ⟨.notFound, [("content-length", "0")], ""⟩
  | _ => ⟨.notFound, [], ""⟩

/-- Handles a request: the reply, the target after it, and the notice of a hit. -/
def handle (t : Target) (r : Request) : Reply × Target × Option Notice :=
  match route r with
  | .served withBody =>
    let (hit, t) := t.count
    let reply := Target.reply t.behavior hit
    (if withBody then reply else { reply with body := "" }, t,
      some (.served hit reply.status.value))
  | other => (refusal other, t, none)

/-- Handles requests one after the other: the replies, the target after them, and the
notices. -/
def handleAll : Target → List Request → List Reply × Target × List Notice
  | t, [] => ([], t, [])
  | t, r :: rest =>
    let (reply, t, notice) := handle t r
    let (replies, t, notices) := handleAll t rest
    (reply :: replies, t, notice.toList ++ notices)

end Router

end Liveness

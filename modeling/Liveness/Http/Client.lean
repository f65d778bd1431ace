import Liveness.Http.Uri
import Liveness.Probe.Transport

/-!
# The client

The client checks the url of a request before it connects. A text that is no uri, a uri
without a scheme, and a scheme that it does not speak are reported as faults of the
transport. This client has no network below it, and reports that for every other url.
-/

namespace Liveness

namespace Client

/-- The schemes that the client speaks: http itself, and proxies. -/
def schemes : List String := ["http", "https", "socks", "socks4", "socks4a", "socks5"]

/-- Why a url is refused before a connection is opened. -/
def refusal? (url : String) : Option String :=
  match Uri.parse url with
  | .error fault => some ("http: " ++ fault.message)
  | .ok uri =>
    match uri.scheme with
    | none => some ("bad uri: " ++ uri.text ++ " is missing scheme")
    | some scheme =>
      if schemes.contains scheme then none else some ("bad uri: unknown scheme: " ++ scheme)

def noNetwork : String := "io: no network"

def get (url : String) : Except Fault Response :=
  .error (.transport url ((refusal? url).getD noNetwork))

def transport : Transport Unit String :=
  .pure fun url => .returned (get url)

end Client

end Liveness

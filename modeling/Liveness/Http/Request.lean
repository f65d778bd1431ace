import Liveness.Http.Uri

/-!
# Requests and replies

A request has a method, which is a token, and a uri. Its headers and its body are left out, since
nothing that answers it looks at them. A reply has a status, headers and a body.
-/

namespace Liveness

structure Request where
  method : String
  uri : Uri
deriving Repr, DecidableEq

namespace Request

inductive Fault where
  | invalidMethod
  | uri (fault : Uri.Fault)
deriving Repr, DecidableEq

def Fault.message : Fault → String
  | .invalidMethod => "invalid HTTP method"
  | .uri fault => fault.message

def isTokenChar (c : Char) : Bool :=
  Uri.isAsciiAlphanumeric c || "!#$%&'*+-.^_\x60|~".toList.contains c

def isToken (s : String) : Bool :=
  !s.isEmpty && s.toList.all isTokenChar

def make (method target : String) : Except Fault Request :=
  if !isToken method then .error .invalidMethod
  else
    match Uri.parse target with
    | .error fault => .error (.uri fault)
    | .ok uri => .ok ⟨method, uri⟩

end Request

/-- A status that a reply may have: three digits. -/
structure StatusCode where
  value : UInt16
  three_digits : 100 ≤ value ∧ value ≤ 999

namespace StatusCode

def ofNumber? (n : UInt16) : Option StatusCode :=
  if h : 100 ≤ n ∧ n ≤ 999 then some ⟨n, h⟩ else none

def ok : StatusCode := ⟨200, by decide⟩

def notFound : StatusCode := ⟨404, by decide⟩

def methodNotAllowed : StatusCode := ⟨405, by decide⟩

def serverError : StatusCode := ⟨500, by decide⟩

def isSuccess (s : StatusCode) : Bool :=
  200 ≤ s.value && s.value ≤ 299

def invalidMessage : String := "invalid status code"

end StatusCode

structure Reply where
  status : StatusCode
  headers : List (String × String)
  body : String

end Liveness

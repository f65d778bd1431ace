/-!
# Text as bytes

The UTF-8 bytes of a text.
-/

namespace Liveness

namespace Utf8

def encode (cs : List Char) : List UInt8 :=
  cs.flatMap String.utf8EncodeChar

def size (cs : List Char) : Nat :=
  cs.foldr (fun c n => c.utf8Size + n) 0

end Utf8

end Liveness

import Liveness.Text.Utf8

/-!
# Uniform resource identifiers

The reader for the targets of requests: a path with a query, the asterisk, an authority,
or an absolute uri with scheme and authority. A fragment is dropped. Characters outside
ASCII may stand in a path or a query, nowhere else.
-/

namespace Liveness

structure Uri where
  scheme : Option String
  /-- empty if there is none -/
  authority : String
  rawPath : String
  query : Option String
deriving Repr, DecidableEq

namespace Uri

inductive Fault where
  | tooLong
  | empty
  | schemeTooLong
  | invalidCharacter
  | invalidAuthority
  | invalidFormat
deriving Repr, DecidableEq

def Fault.message : Fault → String
  | .tooLong => "uri too long"
  | .empty => "empty string"
  | .schemeTooLong => "scheme too long"
  | .invalidCharacter => "invalid uri character"
  | .invalidAuthority => "invalid authority"
  | .invalidFormat => "invalid format"

def sizeLimit : Nat := 65534

def schemeLimit : Nat := 64

/-- The colons that an authority may hold where an address between brackets is read. -/
def colonLimit : Nat := 8

/-! ## Characters -/

def isAsciiAlphanumeric (c : Char) : Bool :=
  ('a' ≤ c && c ≤ 'z') || ('A' ≤ c && c ≤ 'Z') || ('0' ≤ c && c ≤ '9')

def isSchemeChar (c : Char) : Bool :=
  isAsciiAlphanumeric c || "+-.~".toList.contains c

/-- What may stand in an authority, the characters with a role of their own included. -/
def isAuthorityChar (c : Char) : Bool :=
  isAsciiAlphanumeric c || "!$&'()*+,-.:;=@[]_~".toList.contains c

def isPathChar (c : Char) : Bool :=
  let n := c.toNat
  n == 0x21 || (0x24 ≤ n && n ≤ 0x3b) || n == 0x3d || (0x40 ≤ n && n ≤ 0x5f)
    || (0x61 ≤ n && n ≤ 0x7a) || n == 0x7c || n == 0x7e || 0x80 ≤ n
    || n == 0x22 || n == 0x7b || n == 0x7d

def isQueryChar (c : Char) : Bool :=
  let n := c.toNat
  n == 0x21 || (0x24 ≤ n && n ≤ 0x3b) || n == 0x3d || (0x3f ≤ n && n ≠ 0x7f)

/-! ## Scheme -/

/-- What is read after a scheme. -/
def schemeMark : List Char := ['/', '/']

/-- Reads a scheme and the mark after it; `name` holds what was read, the latest first.
Without a scheme the whole text is left. -/
def readScheme (name : List Char) : List Char → Except Fault (Option (String × List Char))
  | [] => .ok none
  | c :: rest =>
    if c = ':' then
      if schemeMark.isPrefixOf rest then
        if schemeLimit < name.length then .error .schemeTooLong
        else .ok (some (String.ofList name.reverse, rest.drop 2))
      else .ok none
    else if isSchemeChar c then readScheme (c :: name) rest
    else .ok none

/-- The schemes that are known in any case of their letters. -/
def commonSchemes : List String := ["http", "https"]

/-- A text of this size or less has no scheme. -/
def shortSize : Nat := 3

/-- The scheme of a text and what follows it. A common scheme is put in small letters. -/
def scheme? (cs : List Char) : Except Fault (Option (String × List Char)) :=
  match commonSchemes.find? fun name =>
      (name.toList ++ ':' :: schemeMark).isPrefixOf (cs.map Char.toLower) with
  | some name => .ok (some (name, cs.drop (name.length + 3)))
  | none => if Utf8.size cs ≤ shortSize then .ok none else readScheme [] cs

/-! ## Authority -/

/-- What matters of the part of an authority that was read. -/
structure AuthorityState where
  colons : Nat := 0
  bracketOpened : Bool := false
  bracketClosed : Bool := false
  percent : Bool := false
  /-- whether the last character was the end of the user's name -/
  afterAt : Bool := false

/-- Reads one character of an authority. What comes before an `@` or between brackets does
not count towards the port. -/
def AuthorityState.read (s : AuthorityState) (c : Char) : Except Fault AuthorityState :=
  let s := { s with afterAt := false }
  if c = ':' then
    if colonLimit ≤ s.colons then .error .invalidAuthority
    else .ok { s with colons := s.colons + 1 }
  else if c = '[' then
    if s.percent || s.bracketOpened then .error .invalidAuthority
    else .ok { s with bracketOpened := true }
  else if c = ']' then
    if !s.bracketOpened || s.bracketClosed then .error .invalidAuthority
    else .ok { s with bracketClosed := true, colons := 0, percent := false }
  else if c = '@' then .ok { s with colons := 0, percent := false, afterAt := true }
  else if c = '%' then .ok { s with percent := true }
  else if isAuthorityChar c then .ok s
  else .error .invalidCharacter

def AuthorityState.isComplete (s : AuthorityState) : Bool :=
  s.bracketOpened == s.bracketClosed && s.colons ≤ 1 && !s.afterAt && !s.percent

def endsAuthority (c : Char) : Bool := c == '/' || c == '?' || c == '#'

/-- Reads an authority up to its end. -/
def checkAuthority (s : AuthorityState) : List Char → Except Fault Unit
  | [] => if s.isComplete then .ok () else .error .invalidAuthority
  | c :: rest =>
    match s.read c with
    | .error fault => .error fault
    | .ok s => checkAuthority s rest

/-- Splits a text after its authority, which has to be sound; the text must not be empty. -/
def splitAuthority (cs : List Char) : Except Fault (List Char × List Char) :=
  if cs.isEmpty then .error .empty
  else
    let name := cs.takeWhile fun c => !endsAuthority c
    match checkAuthority {} name with
    | .error fault => .error fault
    | .ok () => .ok (name, cs.dropWhile fun c => !endsAuthority c)

/-! ## Path and query -/

def dropFragment (cs : List Char) : List Char :=
  cs.takeWhile (· ≠ '#')

def readPath (cs : List Char) : Except Fault (String × Option String) :=
  let whole := dropFragment cs
  let path := whole.takeWhile (· ≠ '?')
  let query := whole.dropWhile (· ≠ '?')
  if !path.all isPathChar then .error .invalidCharacter
  else if !(query.drop 1).all isQueryChar then .error .invalidCharacter
  else .ok (String.ofList path,
    if query.isEmpty then none else some (String.ofList (query.drop 1)))

/-! ## The whole uri -/

def ofAuthority (name : List Char) : Uri := ⟨none, String.ofList name, "", none⟩

/-- Reads a uri that starts with a scheme or an authority. -/
def readFull (cs : List Char) : Except Fault Uri := do
  match ← scheme? cs with
  | none =>
    let (name, rest) ← splitAuthority cs
    if rest.isEmpty then .ok (ofAuthority name) else .error .invalidFormat
  | some (scheme, rest) =>
    let (name, rest) ← splitAuthority rest
    if name.isEmpty then .error .invalidFormat
    else
      let (path, query) ← readPath rest
      .ok ⟨some scheme, String.ofList name, path, query⟩

/-- Reads a uri of one character that stands for no path. -/
def readSingle (cs : List Char) : Except Fault Uri := do
  let (name, rest) ← splitAuthority cs
  if rest.isEmpty then .ok (ofAuthority name) else .error .invalidCharacter

def parse (text : String) : Except Fault Uri :=
  let cs := text.toList
  if sizeLimit < Utf8.size cs then .error .tooLong
  else
    match cs with
    | [] => .error .empty
    | ['*'] => .ok ⟨none, "", "*", none⟩
    | '/' :: _ => (readPath cs).map fun (path, query) => ⟨none, "", path, query⟩
    | _ => if Utf8.size cs = 1 then readSingle cs else readFull cs

/-! ## Views -/

/-- The path; it is the root if none is written, unless the uri is a bare authority. -/
def path (u : Uri) : String :=
  if u.scheme.isNone && u.rawPath.isEmpty && u.query.isNone then ""
  else if u.rawPath.isEmpty then "/"
  else u.rawPath

def text (u : Uri) : String :=
  (u.scheme.elim "" fun s => s ++ "://") ++ u.authority ++ u.path
    ++ (u.query.elim "" fun q => "?" ++ q)

end Uri

end Liveness

import Liveness.Log.Notice
import Liveness.Log.Pattern.Reader
import Liveness.Text.Slice

/-!
# Which notices are logged

A filter is a list of directives separated by commas. A directive names the origins it is
about by how their names begin, and the least level that it lets through; it may be bound
to notices with certain fields. A notice is judged by the most specific directive that is
about it, and one that no directive is about is not logged. A filter that cannot be read
is replaced as a whole by the default one. No notice is compared with the values that
fields are bound to, but a value that can be none makes the filter unreadable.
-/

namespace Liveness

namespace Filter

/-- What a directive lets through: the notices of this rank or less, none for zero. -/
abbrev Threshold := Nat

/-- A directive about the origins whose names begin with `target`. -/
structure Directive where
  target : Option String
  /-- the span that the notice has to be logged in -/
  span : Option String
  /-- the fields that the notice has to have, and the values that some are bound to -/
  fields : List (String × Option String)
  threshold : Threshold
deriving Repr, DecidableEq

/-! ## Reading -/

def levelNames : List (String × Threshold) :=
  [("off", 0), ("error", 1), ("warn", 2), ("info", 3), ("debug", 4), ("trace", 5)]

/-- A level by its name, in any case, or by its number. -/
def level? (cs : List Char) : Option Threshold :=
  match Numeral.readNat (UInt64.size - 1) cs with
  | .ok n => if n ≤ 5 then some n else none
  | .error _ =>
    let folded := cs.map Char.toLower
    (levelNames.find? fun l => l.1.toList == folded).map Prod.snd

inductive Fault where
  | unreadable
  /-- a part of the text would begin or end inside a character -/
  | split (s : Utf8.Split)
deriving Repr, DecidableEq

/-- Where the reader of a directive stands; offsets are in bytes. -/
inductive Place where
  | start
  | levelOrTarget (first : Nat)
  | span (first : Nat)
  | field (first : Nat)
  | fields
  | target
  | level (first : Nat)
deriving Repr, DecidableEq

/-- A part of the directive's text. The offsets come from the text without white space in
front and are applied to the text as it stands. -/
abbrev Cut := Nat → Option Nat → Except Fault (List Char)

/-- The parts of a text as it stands. -/
def cutOf (cs : List Char) : Cut := fun first last =>
  match Utf8.slice first (last.getD (Utf8.size cs)) cs with
  | .ok part => .ok part
  | .error s => .error (.split s)

/-- Whether a field can be bound to a value: a number, or a pattern. -/
def isBindable (cs : List Char) : Bool := Numeral.isReal cs || Pattern.isSound cs

/-- A required field: a name, and a value after an equals sign. -/
def field? (cs : List Char) : Except Fault (String × Option String) :=
  let name := String.ofList (cs.takeWhile (· ≠ '='))
  match cs with
  | [] => .error .unreadable
  | cs =>
    match cs.dropWhile (· ≠ '=') with
    | [] => .ok (name, none)
    | _ :: rest =>
      let value := rest.takeWhile (· ≠ '=')
      if isBindable value then .ok (name, some (String.ofList value)) else .error .unreadable

/-- Reads one character of a directive at the given offset. -/
def advance (cut : Cut) (d : Directive) (offset : Nat) (c : Char) :
    Place → Except Fault (Directive × Place)
  | .start =>
    if c = '[' then .ok (d, .span (offset + 1))
    else if c = '-' ∨ c = ':' ∨ c = '_' ∨ isAlphanumeric c then .ok (d, .levelOrTarget offset)
    else .error .unreadable
  | .levelOrTarget first =>
    if c = '=' ∨ c = '[' then
      (cut first (some offset)).map fun text =>
        ({ d with target := some (String.ofList text) },
          if c = '=' then .level (offset + 1) else .span (offset + 1))
    else .ok (d, .levelOrTarget first)
  | .span first =>
    if c = ']' then
      (cut first (some offset)).map fun text =>
        ({ d with span := some (String.ofList text) }, .target)
    else if c = '\x7b' then
      (cut first (some offset)).map fun text =>
        ({ d with span := if text.isEmpty then none else some (String.ofList text) },
          .field (offset + 1))
    else .ok (d, .span first)
  | .field first =>
    if c = '\x7d' then
      ((cut first (some offset)).bind field?).map fun field =>
        ({ d with fields := d.fields ++ [field] }, .fields)
    else .ok (d, .field first)
  | .fields => if c = ']' then .ok (d, .target) else .error .unreadable
  | .target => if c = '=' then .ok (d, .level (offset + 1)) else .error .unreadable
  | .level first => .ok (d, .level first)

/-- What a text after an equals sign lets through; nothing there lets everything through. -/
def threshold? (cs : List Char) : Except Fault Threshold :=
  match cs, level? cs with
  | [], _ => .ok 5
  | _, some threshold => .ok threshold
  | _, none => .error .unreadable

/-- What the end of the text says. -/
def conclude (cut : Cut) (d : Directive) : Place → Except Fault Directive
  | .levelOrTarget first =>
    (cut first none).map fun text =>
      match level? text with
      | some threshold => { d with target := none, threshold := threshold }
      | none => { d with target := some (String.ofList text), threshold := 5 }
  | .level first =>
    ((cut first none).bind threshold?).map fun threshold => { d with threshold := threshold }
  | .target => .ok d
  | _ => .error .unreadable

def readFrom (cut : Cut) : Directive → Nat → Place → List Char → Except Fault Directive
  | d, _, place, [] => conclude cut d place
  | d, offset, place, c :: rest =>
    match advance cut d offset c place with
    | .error fault => .error fault
    | .ok (d', place') => readFrom cut d' (offset + c.utf8Size) place' rest

def readDirective (cs : List Char) : Except Fault Directive :=
  readFrom (cutOf cs) ⟨none, none, [], 5⟩ 0 .start (trim cs)

/-- The parts of a text between commas. -/
def splitCommas : List Char → List (List Char)
  | [] => [[]]
  | c :: rest =>
    match splitCommas rest with
    | [] => [[c]]
    | part :: parts => if c = ',' then [] :: part :: parts else (c :: part) :: parts

/-! ## Order of directives

Directives are tried from the most to the least specific: the longer target first, then
the more fields, then the later in the order of targets and fields. Of two directives
about the same thing the later one counts. -/

/-- Lexicographic order on lists of characters, by code point. -/
def charsOrder : List Char → List Char → Ordering
  | [], [] => .eq
  | [], _ :: _ => .lt
  | _ :: _, [] => .gt
  | a :: as, b :: bs => (compare a.toNat b.toNat).then (charsOrder as bs)

def targetOrder : Option String → Option String → Ordering
  | none, none => .eq
  | none, some _ => .lt
  | some _, none => .gt
  | some a, some b => charsOrder a.toList b.toList

def fieldsOrder : List (String × Option String) → List (String × Option String) → Ordering
  | [], [] => .eq
  | [], _ :: _ => .lt
  | _ :: _, [] => .gt
  | a :: as, b :: bs => (charsOrder a.1.toList b.1.toList).then (fieldsOrder as bs)

/-- How specific a directive is, compared with another. -/
def specificity (a b : Directive) : Ordering :=
  let length (d : Directive) := d.target.elim 0 fun t => t.utf8ByteSize + 1
  (compare (length a) (length b)).then <|
    (compare a.fields.length b.fields.length).then <|
      (targetOrder a.target b.target).then (fieldsOrder a.fields b.fields)

/-- Puts a directive at its place, most specific first; it replaces an equal one. -/
def insert (d : Directive) : List Directive → List Directive
  | [] => [d]
  | e :: rest =>
    match specificity d e with
    | .gt => d :: e :: rest
    | .eq => d :: rest
    | .lt => e :: insert d rest

/-- Directives in the order in which they are tried. No notice is logged inside a span or
compared with a value, so a directive that asks for that is about none. -/
def arrange (ds : List Directive) : List Directive :=
  let usable := ds.filter fun d => d.span.isNone && d.fields.all fun f => f.2.isNone
  let (bound, free) := usable.partition fun d => !d.fields.isEmpty
  bound.foldl (fun arranged d => insert d arranged)
    (free.foldl (fun arranged d => insert d arranged) [])

/-! ## Judging -/

/-- Whether a directive is about a notice. The message counts as a field. -/
def Directive.isAbout (d : Directive) (n : Notice) : Bool :=
  let names := "message" :: n.fields.map Prod.fst
  d.target.all (fun t => t.toList.isPrefixOf n.origin.name.toList)
    && d.fields.all fun f => names.contains f.1

end Filter

structure Filter where
  directives : List Filter.Directive
deriving Repr, DecidableEq

namespace Filter

def admits (f : Filter) (n : Notice) : Bool :=
  match f.directives.find? fun d => d.isAbout n with
  | none => false
  | some d => n.level.rank ≤ d.threshold

def ofText (text : String) : Except Fault Filter :=
  let parts := (splitCommas text.toList).filter fun p => !p.isEmpty
  (parts.mapM readDirective).map fun ds => ⟨arrange ds⟩

/-- The filter that stands in for none, or for one that cannot be read. -/
def standard : Filter := ⟨[⟨none, none, [], 3⟩]⟩

/-- The filter of a setting that may be missing. A setting that would have to be split inside
a character is not replaced. -/
def ofSetting (setting : Option String) : Except Utf8.Split Filter :=
  match setting.map ofText with
  | some (.ok filter) => .ok filter
  | some (.error (.split s)) => .error s
  | _ => .ok standard

def records (f : Filter) (ns : List Notice) : List String :=
  (ns.filter f.admits).map Notice.record

end Filter

end Liveness

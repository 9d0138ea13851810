import Screenwright.Json.Basic
import Screenwright.Record.Numeral

/-! Reading records from JSON objects. A reading gives a value or all faults, in the order in
which the fields are declared and with unknown keys after them. -/
namespace Screenwright

/-- A value, or every fault met on the way to it. -/
inductive Decoded (α : Type) where
  | ok (value : α)
  | bad (faults : List RecordFault)
  deriving Repr

namespace Decoded
variable {α β : Type}

def map (f : α → β) : Decoded α → Decoded β
  | ok a => ok (f a)
  | bad faults => bad faults

/-- Applies a decoded function to a decoded argument; the faults of both are kept in order. -/
def app : Decoded (α → β) → Decoded α → Decoded β
  | ok f, ok a => ok (f a)
  | ok _, bad e => bad e
  | bad e, ok _ => bad e
  | bad e, bad e' => bad (e ++ e')

instance : Functor Decoded where map := map

instance : Applicative Decoded where
  pure := ok
  seq f x := app f (x ())

def fault (kind : FaultKind) : Decoded α := bad [⟨[], kind⟩]

/-- Places every fault one step deeper. -/
def under (p : Place) : Decoded α → Decoded α
  | ok a => ok a
  | bad faults => bad (faults.map fun e => { e with place := p :: e.place })

def faults : Decoded α → List RecordFault
  | ok _ => []
  | bad e => e

def toOption : Decoded α → Option α
  | ok a => some a
  | bad _ => none

def toExcept : Decoded α → Except (List RecordFault) α
  | ok a => .ok a
  | bad e => .error e

/-- A value followed by faults found beside it. -/
def keepUnless (x : Decoded α) (more : List RecordFault) : Decoded α :=
  match x, more with
  | x, [] => x
  | ok _, more => bad more
  | bad e, more => bad (e ++ more)

/-- The items of a list, counted from `i`. -/
def list (decode : Json → Decoded α) (i : Nat) : List Json → Decoded (List α)
  | [] => ok []
  | x :: xs => List.cons <$> (decode x).under (.index i) <*> list decode (i + 1) xs

/-- The values of an object, by key. -/
def entries (decode : Json → Decoded α) : Fields Json → Decoded (Fields α)
  | [] => ok []
  | (k, v) :: fs => (fun a rest => (k, a) :: rest) <$> (decode v).under (.key k) <*> entries decode fs

end Decoded

namespace Decode
variable {α : Type}

def text : Json → Decoded String
  | .str s => .ok s
  | _ => .fault .notString

def object : Json → Decoded (Fields Json)
  | .obj fs => .ok fs
  | _ => .fault .notObject

def listOf (decode : Json → Decoded α) : Json → Decoded (List α)
  | .arr xs => .list decode 0 xs
  | _ => .fault .notList

def dictOf (decode : Json → Decoded α) : Json → Decoded (Fields α)
  | .obj fs => .entries decode fs
  | _ => .fault .notObject

def any (j : Json) : Decoded Json := .ok j

/-- One of the allowed texts. -/
def oneOf (allowed : List String) : Json → Decoded String
  | .str s => if s ∈ allowed then .ok s else .fault (.notOneOf allowed)
  | _ => .fault (.notOneOf allowed)

/-- One of the values of an enumeration, by its name. -/
def named (all : List α) (name : α → String) : Json → Decoded α
  | .str s =>
    match all.find? (name · == s) with
    | some a => .ok a
    | none => .fault (.notOneOf (all.map name))
  | _ => .fault (.notOneOf (all.map name))

/-- A value or null. -/
def nullable (decode : Json → Decoded α) : Json → Decoded (Option α)
  | .null => .ok none
  | j => some <$> decode j

/-- Integral numbers from this magnitude on are refused. -/
def integralBound : Int := Int.pow 2 63

/-- An integer: booleans count as `0` and `1`, and integral numbers and texts are converted. -/
def integer : Json → Decoded Int
  | .int n => .ok n
  | .bool b => .ok (if b then 1 else 0)
  | .float x =>
    if !x.isFinite then .fault .notFiniteNumber
    else match x.toInt? with
      | none => .fault .fractionalInteger
      | some n =>
        if -integralBound < n ∧ n < integralBound then .ok n else .fault .oversizedInteger
  | .str s =>
    match Numeral.integer s with
    | .ok n => .ok n
    | .error kind => .fault kind
  | _ => .fault .notInteger

/-- A floating-point number: integers are rounded unless they are too large, booleans count, and
texts are converted. -/
def number : Json → Decoded Binary64
  | .float x => .ok x
  | .int n => if (Binary64.ofInt n).isFinite then .ok (.ofInt n) else .fault .notNumber
  | .bool b => .ok (.ofInt (if b then 1 else 0))
  | .str s =>
    match Numeral.number? s with
    | some x => .ok x
    | none => .fault .unreadableNumber
  | _ => .fault .notNumber

/-- The second spelling of a field name: every capital becomes a small letter after a low line. -/
def snakeName (name : String) : String :=
  String.ofList (name.toList.flatMap fun c => if c.isUpper then ['_', c.toLower] else [c])

/-- The key under which a field stands: its name, or else its second spelling. -/
def keyOf (fs : Fields Json) (name : String) : String :=
  if fs.has name then name else snakeName name

/-- A field that may be absent. -/
def fieldOr (fs : Fields Json) (name : String) (default : α) (decode : Json → Decoded α) :
    Decoded α :=
  match fs.get? (keyOf fs name) with
  | some v => (decode v).under (.key (keyOf fs name))
  | none => .ok default

/-- A field that has to be present. -/
def required (fs : Fields Json) (name : String) (decode : Json → Decoded α) : Decoded α :=
  match fs.get? (keyOf fs name) with
  | some v => (decode v).under (.key (keyOf fs name))
  | none => .bad [⟨[.key name], .missing⟩]

/-- A field that may be absent or null. -/
def optional (fs : Fields Json) (name : String) (decode : Json → Decoded α) :
    Decoded (Option α) :=
  fieldOr fs name none (nullable decode)

/-- The fields that belong to none of the names, in document order. -/
def unknown (names : List String) (fs : Fields Json) : Fields Json :=
  fs.filter fun e => !names.any fun name => keyOf fs name == e.1

/-- A record whose object has no other keys than its fields. -/
def closed (names : List String) (fs : Fields Json) (x : Decoded α) : Decoded α :=
  x.keepUnless ((unknown names fs).map fun e => ⟨[.key e.1], .extra⟩)

/-- How deep records may be nested inside one another. -/
def maxDepth : Nat := 255

/-- A record inside others, where `room` more may be nested. -/
def within (room : Nat) (decode : Json → Decoded α) : Json → Decoded α :=
  if room = 0 then fun _ => .fault .tooDeep else decode

/-- A record that is read from an object. -/
def record (name : String) (decode : Fields Json → Decoded α) : Json → Decoded α
  | .obj fs => decode fs
  | _ => .fault (.notRecord name)

end Decode
end Screenwright

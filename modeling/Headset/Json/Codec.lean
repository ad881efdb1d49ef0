import Headset.Json.Value

/-!
# Values as documents

The parts from which the readers and writers of the domain's types are made.  A record is written
as an object with its fields in order, and read from such an object in any order or from an array
of the fields; a known field may occur once only.  `Json.fields?` finds the fields, whose readers
then look them up by name.
-/

namespace Headset.Json

/-! ## Writing -/

def ofString (s : String) : Json := .string (Escape.escape s.toList)

def ofNat (n : Nat) : Json := .number (Nat.repr n).toList

def ofInt : Int → Json
  | .ofNat n => ofNat n
  | .negSucc n => .number ('-' :: (Nat.repr (n + 1)).toList)

/-- A single with the fewest digits; what is not finite is null. -/
def ofSingle (x : Float32) : Json :=
  match Style.json.finite? x with
  | some text => .number text
  | none => .null

def ofOption {α : Type} (f : α → Json) : Option α → Json
  | none => .null
  | some a => f a

/-- A record with its fields in order. -/
def record (fields : List (String × Json)) : Json :=
  .object (fields.map fun f => (Escape.escape f.1.toList, f.2))

/-! ## Reading -/

def toString? : Json → Option String
  | .string body => (Escape.unescape? body).map String.ofList
  | _ => none

def toBool? : Json → Option Bool
  | .bool b => some b
  | _ => none

def toValue? : Json → Option Numeral.Value
  | .number text => (Numeral.read? text).bind Numeral.value?
  | _ => none

/-- A number rounded to a single. -/
def toSingle? (j : Json) : Option Float32 := j.toValue?.map Numeral.Value.toSingle

def toNat? (bound : Nat) (j : Json) : Option Nat := j.toValue?.bind (Numeral.Value.toNat? bound)

def toUInt32? (j : Json) : Option UInt32 := (j.toNat? 0x100000000).map UInt32.ofNat

def toUInt64? (j : Json) : Option UInt64 := (j.toNat? 0x10000000000000000).map UInt64.ofNat

def toInt32? (j : Json) : Option Int32 := j.toValue?.bind Numeral.Value.toInt32?

/-- Null for none, anything else for a value. -/
def toOption? {α : Type} (f : Json → Option α) : Json → Option (Option α)
  | .null => some none
  | j => (f j).map some

/-- One of several names, as a string or as the only key of an object that holds null. -/
def toName? {α : Type} (names : List (String × α)) : Json → Option α
  | .object [(key, .null)] => (toString? (.string key)).bind (List.lookup · names)
  | j => j.toString?.bind (List.lookup · names)

/-- The members of an object with their keys read. -/
def members? (members : List (List Char × Json)) : Option (List (String × Json)) :=
  members.mapM fun m => (Escape.unescape? m.1).map fun key => (String.ofList key, m.2)

/-- The fields of a record with the given names, from an object or an array.  A name must not occur
twice.  Members with other names are left out, unless the record is `closed`, which has none. -/
def fields? (closed : Bool) (names : List String) : Json → Option (List (String × Json))
  | .array items => if items.length ≤ names.length then some (names.zip items) else none
  | .object members => do
    let members ← members? members
    let known := members.filter fun m => names.contains m.1
    guard ((known.map Prod.fst).Nodup ∧ (closed → known.length = members.length))
    return known
  | _ => none

/-- A field that has to be there. -/
def required {α : Type} (f : Json → Option α) (fields : List (String × Json)) (name : String) :
    Option α :=
  (List.lookup name fields).bind f

/-- A field that may be left out for a default. -/
def optional {α : Type} (default : α) (f : Json → Option α) (fields : List (String × Json))
    (name : String) : Option α :=
  match List.lookup name fields with
  | none => some default
  | some j => f j

end Headset.Json

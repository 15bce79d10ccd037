import VmRecovery.Json.Value

/-!
# Reading typed data from JSON values

Each function accepts exactly the JSON forms of one kind of data. A record is an object with
its fields in any order, other keys ignored and none of its own repeated, or an array of its
fields in order. A choice without content is its name, or an object that maps its name to null;
a choice with content is an object with its name as the only key.
-/

namespace VmRecovery.Json

/-- An integer. -/
def int? : Json → Option Int
  | number value => value.toInt?
  | _ => none

/-- An integer between zero and a bound. -/
def natBelow? (bound : Nat) (value : Json) : Option Nat := do
  let value ← value.int?
  if 0 ≤ value && value < bound then some value.toNat else none

/-- A counter or an index, which fits into 64 bits. -/
def nat? : Json → Option Nat :=
  natBelow? UInt64.size

/-- A 64-bit word. -/
def uint64? (value : Json) : Option UInt64 :=
  (value.natBelow? UInt64.size).map Nat.toUInt64

/-- A 32-bit word. -/
def uint32? (value : Json) : Option UInt32 :=
  (value.natBelow? UInt32.size).map Nat.toUInt32

/-- A byte. -/
def uint8? (value : Json) : Option UInt8 :=
  (value.natBelow? UInt8.size).map Nat.toUInt8

/-- A signed 64-bit word. -/
def int64? (value : Json) : Option Int64 := do
  let value ← value.int?
  if Int64.minValue.toInt ≤ value && value ≤ Int64.maxValue.toInt then some (Int64.ofInt value)
  else none

/-- A truth value. -/
def bool? : Json → Option Bool
  | bool value => some value
  | _ => none

/-- A text. -/
def string? : Json → Option String
  | text value => value.chars?
  | _ => none

/-- An array of items of one kind. -/
def list? {α : Type} (item? : Json → Option α) : Json → Option (List α)
  | array items => items.mapM item?
  | _ => none

/-- A value that may be null. -/
def option? {α : Type} (some? : Json → Option α) : Json → Option (Option α)
  | null => some none
  | value => (some? value).map some

/-- An array of exactly two items. -/
def pair? {α β : Type} (first? : Json → Option α) (second? : Json → Option β) :
    Json → Option (α × β)
  | array [first, second] => do return (← first? first, ← second? second)
  | _ => none

/-- The values of a key, in order. -/
def valuesOf (key : String) (fields : List (Text × Json)) : List Json :=
  (fields.filter fun field => field.1.chars? == some key).map Prod.snd

/-- The value of a key that occurs once, and no value if it does not occur. -/
def field? (fields : List (Text × Json)) (key : String) : Option (Option Json) :=
  match valuesOf key fields with
  | [] => some none
  | [value] => some (some value)
  | _ => none

/-- Every key names characters. -/
def keysAreTexts (fields : List (Text × Json)) : Bool :=
  fields.all fun field => field.1.chars?.isSome

/-- The fields of a record whose array form may leave out the last `spare` fields. -/
def fields? (spare : Nat) (names : List String) : Json → Option (List (Option Json))
  | object fields => if keysAreTexts fields then names.mapM (field? fields) else none
  | array items =>
      if items.length ≤ names.length && names.length ≤ items.length + spare then
        some (items.map some ++ List.replicate (names.length - items.length) none)
      else none
  | _ => none

/-- The fields of a record in the order of their names; a missing one is none. -/
def record? (names : List String) : Json → Option (List (Option Json)) :=
  fields? 0 names

/-- A field that has to be there. -/
def required? {α : Type} (value? : Json → Option α) : Option Json → Option α
  | none => none
  | some value => value? value

/-- A field that may be null or missing. -/
def nullable? {α : Type} (value? : Json → Option α) : Option Json → Option (Option α)
  | none => some none
  | some value => option? value? value

/-- A field that has a default. -/
def defaulted? {α : Type} (fallback : α) (value? : Json → Option α) : Option Json → Option α
  | none => some fallback
  | some value => value? value

/-- The name of a choice and its content, if it has one. -/
def choice? : Json → Option (String × Option Json)
  | text value => value.chars?.map fun name => (name, none)
  | object [(key, content)] => key.chars?.map fun name => (name, some content)
  | _ => none

/-- The content of a choice that has none. -/
def bare? : Option Json → Option Unit
  | none => some ()
  | some null => some ()
  | some _ => none

/-- One of several choices without content. -/
def enumeration? {α : Type} (table : List (String × α)) (value : Json) : Option α := do
  let (name, content) ← value.choice?
  bare? content
  table.lookup name

end VmRecovery.Json

import VmRecovery.Document.Machine
import VmRecovery.Handler.Pattern
import VmRecovery.Json.Range

/-!
# Documents of handler patterns

A pattern is an object that names its kind beside its own fields, or an array that begins with
the kind. The kind may come last, so everything else is kept until it is known; what is kept
has to be proper text, representable numbers, and nested no deeper than `maxNesting`.
-/

namespace VmRecovery

namespace Json

/-- The number of arrays and objects that a value which is kept may lie in. -/
def maxNesting : Nat := 127

mutual

/-- Whether a value can be kept, with so many levels of nesting left. -/
def isKept (room : Nat) : Json → Bool
  | null => true
  | bool _ => true
  | number value => value.isFinite
  | text value => value.chars?.isSome
  | array items => room != 0 && areKept (room - 1) items
  | object fields => room != 0 && fieldsAreKept (room - 1) fields

/-- Whether all items can be kept. -/
def areKept (room : Nat) : List Json → Bool
  | [] => true
  | item :: rest => isKept room item && areKept room rest

/-- Whether all fields can be kept. -/
def fieldsAreKept (room : Nat) : List (Text × Json) → Bool
  | [] => true
  | (key, value) :: rest => key.chars?.isSome && isKept room value && fieldsAreKept room rest

end

/-- The content of a choice that has none, after it was kept. -/
def bareKept? : Option Json → Option Unit
  | some (object []) => some ()
  | content => bare? content

end Json

/-- The JSON form of a segment. -/
def Segment.toJson : Segment → Json
  | fs => .string "Fs"

/-- Reads a segment. -/
def Segment.ofJson? (json : Json) : Option Segment :=
  json.enumeration? [("Fs", .fs)]

/-- Reads a segment that was kept. -/
def Segment.ofKeptJson? (json : Json) : Option Segment := do
  let (name, content) ← json.choice?
  Json.bareKept? content
  [("Fs", Segment.fs)].lookup name

namespace Handler

/-- The arithmetic operations and their names in a document. -/
def BinaryOp.table : List (String × BinaryOp) :=
  [("add", .add), ("nor", .nor), ("nand", .nand), ("shl", .shl), ("shr", .shr)]

/-- The name of an arithmetic operation. -/
def BinaryOp.name : BinaryOp → String
  | add => "add"
  | nor => "nor"
  | nand => "nand"
  | shl => "shl"
  | shr => "shr"

/-- Reads an arithmetic operation. -/
def BinaryOp.ofJson? (json : Json) : Option BinaryOp :=
  json.enumeration? table

/-- Reads an arithmetic operation that was kept. -/
def BinaryOp.ofKeptJson? (json : Json) : Option BinaryOp := do
  let (name, content) ← json.choice?
  Json.bareKept? content
  table.lookup name

/-- The name of a double shift. -/
def DoubleShiftOp.name : DoubleShiftOp → String
  | shld => "shld"
  | shrd => "shrd"

/-- The double shifts and their names in a document. -/
def DoubleShiftOp.table : List (String × DoubleShiftOp) :=
  [("shld", .shld), ("shrd", .shrd)]

/-- Reads a double shift. -/
def DoubleShiftOp.ofJson? (json : Json) : Option DoubleShiftOp :=
  json.enumeration? table

/-- Reads a double shift that was kept. -/
def DoubleShiftOp.ofKeptJson? (json : Json) : Option DoubleShiftOp := do
  let (name, content) ← json.choice?
  Json.bareKept? content
  table.lookup name

namespace Pattern

/-- The fields of a pattern beside its kind. -/
def fieldsJson : Pattern → List (String × Json)
  | popReg size store pair =>
      [("size", .nat size.toNat), ("store_address", .nat store.toNat), ("pair", pair.toJson)]
  | pushReg size load => [("size", .nat size.toNat), ("load_address", .nat load.toNat)]
  | pushImm size load store =>
      [("size", .nat size.toNat), ("load_address", .nat load.toNat),
        ("store_address", .nat store.toNat)]
  | pushVsp size => [("size", .nat size.toNat)]
  | readMem size segment =>
      [("size", .nat size.toNat), ("segment", .optional Segment.toJson segment)]
  | writeMem size => [("size", .nat size.toNat)]
  | binary op size => [("op", .string op.name), ("size", .nat size.toNat)]
  | doubleShift op size => [("op", .string op.name), ("size", .nat size.toNat)]
  | mul size => [("size", .nat size.toNat)]
  | exit restored => [("restored", .array (restored.map .string))]
  | _ => []

/-- The JSON form of a pattern. -/
def toJson (pattern : Pattern) : Json :=
  .record (("kind", .string pattern.name) :: pattern.fieldsJson)

/-- A pattern of a kind that has no fields. The content may be an object with any fields, or an
empty array. -/
def bareOfContent? (pattern : Pattern) : Json → Option Pattern
  | .object _ => some pattern
  | .array [] => some pattern
  | _ => none

/-- A pattern of a kind whose only field is its size. -/
def sizedOfContent? (pattern : UInt8 → Pattern) (content : Json) : Option Pattern := do
  match ← content.record? ["size"] with
  | [size] => return pattern (← Json.required? Json.uint8? size)
  | _ => none

/-- Reads a pop into the save area. -/
def popRegOfContent? (content : Json) : Option Pattern := do
  match ← content.record? ["size", "store_address", "pair"] with
  | [size, store, pair] =>
      return .popReg (← Json.required? Json.uint8? size) (← Json.required? Json.uint64? store)
        (← Json.required? RegisterPair.ofJson? pair)
  | _ => none

/-- Reads a push of a virtual register. -/
def pushRegOfContent? (content : Json) : Option Pattern := do
  match ← content.record? ["size", "load_address"] with
  | [size, load] =>
      return .pushReg (← Json.required? Json.uint8? size) (← Json.required? Json.uint64? load)
  | _ => none

/-- Reads a push of an immediate. -/
def pushImmOfContent? (content : Json) : Option Pattern := do
  match ← content.record? ["size", "load_address", "store_address"] with
  | [size, load, store] =>
      return .pushImm (← Json.required? Json.uint8? size) (← Json.required? Json.uint64? load)
        (← Json.required? Json.uint64? store)
  | _ => none

/-- Reads a read of memory. -/
def readMemOfContent? (content : Json) : Option Pattern := do
  match ← content.record? ["size", "segment"] with
  | [size, segment] =>
      return .readMem (← Json.required? Json.uint8? size)
        (← Json.nullable? Segment.ofKeptJson? segment)
  | _ => none

/-- Reads a pattern with an operation of its own. -/
def operationOfContent? {α : Type} (pattern : α → UInt8 → Pattern) (op? : Json → Option α)
    (content : Json) : Option Pattern := do
  match ← content.record? ["op", "size"] with
  | [op, size] =>
      return pattern (← Json.required? op? op) (← Json.required? Json.uint8? size)
  | _ => none

/-- Reads an exit. -/
def exitOfContent? (content : Json) : Option Pattern := do
  match ← content.record? ["restored"] with
  | [restored] => return .exit (← Json.required? (Json.list? Json.string?) restored)
  | _ => none

/-- Reads a pattern of a kind from everything beside the kind. -/
def ofContent? (kind : String) (content : Json) : Option Pattern :=
  match kind with
  | "pop_reg" => popRegOfContent? content
  | "push_reg" => pushRegOfContent? content
  | "push_imm" => pushImmOfContent? content
  | "push_vsp" => sizedOfContent? .pushVsp content
  | "read_mem" => readMemOfContent? content
  | "write_mem" => sizedOfContent? .writeMem content
  | "binary" => operationOfContent? .binary BinaryOp.ofKeptJson? content
  | "double_shift" => operationOfContent? .doubleShift DoubleShiftOp.ofKeptJson? content
  | "mul" => sizedOfContent? .mul content
  | "cpuid" => bareOfContent? .cpuid content
  | "jmp_const" => bareOfContent? .jmpConst content
  | "jmp" => bareOfContent? .jmp content
  | "write_vsp" => bareOfContent? .writeVsp content
  | "popfd" => bareOfContent? .popfd content
  | "exit" => exitOfContent? content
  | _ => none

/-- The kind of a pattern and everything beside it. -/
def split? : Json → Option (String × Json)
  | .object fields => do
      let kind ← (← Json.field? fields "kind").bind Json.string?
      return (kind, .object (fields.filter fun field => field.1.chars? != some "kind"))
  | .array (kind :: items) => do return (← kind.string?, .array items)
  | _ => none

/-- Reads a pattern that lies in so many arrays and objects. -/
def ofNestedJson? (nesting : Nat) (json : Json) : Option Pattern := do
  let (kind, content) ← split? json
  if content.isKept (Json.maxNesting - nesting) then ofContent? kind content else none

/-- Reads a pattern. -/
def ofJson? : Json → Option Pattern :=
  ofNestedJson? 0

end Pattern

end Handler

end VmRecovery

import VmRecovery.Ir.Fragment
import VmRecovery.Json.Schema

/-!
# Documents of lifted code
-/

namespace VmRecovery.Ir

/-- The JSON form of a location. -/
def Location.toJson : Location → Json
  | register name => .tagged "Register" (.string name)
  | stack offset => .tagged "Stack" (.int offset.toInt)
  | constant value => .tagged "Constant" (.nat value.toNat)
  | temporary => .string "Temporary"

/-- Reads a location. -/
def Location.ofJson? (json : Json) : Option Location := do
  match ← json.choice? with
  | ("Register", some content) => return .register (← content.string?)
  | ("Stack", some content) => return .stack (← content.int64?)
  | ("Constant", some content) => return .constant (← content.uint64?)
  | ("Temporary", content) => (Json.bare? content).map fun _ => .temporary
  | _ => none

/-- The kinds of operations and their names in a document. -/
def Opcode.table : List (String × Opcode) :=
  [("Copy", .copy), ("Load", .load), ("Store", .store), ("IntAdd", .intAdd),
    ("IntSub", .intSub), ("IntAnd", .intAnd), ("IntOr", .intOr), ("IntXor", .intXor),
    ("IntNegate", .intNegate), ("IntLeft", .intLeft), ("IntRight", .intRight),
    ("IntSright", .intSright), ("IntMult", .intMult), ("IntZext", .intZext),
    ("IntSext", .intSext), ("SubPiece", .subPiece), ("Piece", .piece), ("PtrAdd", .ptrAdd),
    ("PtrSub", .ptrSub), ("Return", .ret), ("Other", .other)]

/-- The name of a kind of operation. -/
def Opcode.name (code : Opcode) : String :=
  ((table.find? fun entry => entry.2 == code).map Prod.fst).getD ""

/-- The kind of operation with a name. -/
def Opcode.ofName? (name : String) : Option Opcode :=
  table.lookup name

/-- Reads a kind of operation. -/
def Opcode.ofJson? (json : Json) : Option Opcode :=
  json.enumeration? table

/-- The JSON form of a value. -/
def Value.toJson (value : Value) : Json :=
  .record
    [("storage", value.location.toJson), ("size", .nat value.size.toNat),
      ("def", .optional .nat value.definedBy)]

/-- Reads a value. -/
def Value.ofJson? (json : Json) : Option Value := do
  match ← json.record? ["storage", "size", "def"] with
  | [storage, size, definition] =>
      some
        { location := ← Json.required? Location.ofJson? storage
          size := ← Json.required? Json.uint8? size
          definedBy := ← Json.nullable? Json.nat? definition }
  | _ => none

/-- The JSON form of an operation. -/
def Op.toJson (op : Op) : Json :=
  .record
    [("address", .nat op.address.toNat), ("code", .string op.code.name),
      ("inputs", .array (op.inputs.map .nat)), ("output", .optional .nat op.output)]

/-- Reads an operation. -/
def Op.ofJson? (json : Json) : Option Op := do
  match ← json.record? ["address", "code", "inputs", "output"] with
  | [address, code, inputs, output] =>
      some
        { address := ← Json.required? Json.uint64? address
          code := ← Json.required? Opcode.ofJson? code
          inputs := ← Json.required? (Json.list? Json.nat?) inputs
          output := ← Json.nullable? Json.nat? output }
  | _ => none

/-- The JSON form of a fragment. -/
def Fragment.toJson (fragment : Fragment) : Json :=
  .record
    [("entry", .nat fragment.entry.toNat),
      ("values", .array (fragment.values.toList.map Value.toJson)),
      ("ops", .array (fragment.ops.toList.map Op.toJson)),
      ("returns",
        .array (fragment.returns.map fun (name, value) => .array [.string name, .nat value]))]

/-- Reads a fragment. -/
def Fragment.ofJson? (json : Json) : Option Fragment := do
  match ← json.record? ["entry", "values", "ops", "returns"] with
  | [entry, values, ops, returns] =>
      some
        { entry := ← Json.required? Json.uint64? entry
          values := (← Json.required? (Json.list? Value.ofJson?) values).toArray
          ops := (← Json.required? (Json.list? Op.ofJson?) ops).toArray
          returns := ← Json.required? (Json.list? (Json.pair? Json.string? Json.nat?)) returns }
  | _ => none

end VmRecovery.Ir

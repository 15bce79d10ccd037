import VmRecovery.Json.Schema
import VmRecovery.Native.Instruction

/-!
# Documents of native instructions
-/

namespace VmRecovery.Native

/-- The JSON form of a memory operand. -/
def MemoryOperand.toJson (operand : MemoryOperand) : Json :=
  .record
    [("segment", .optional .string operand.segment), ("base", .optional .string operand.base),
      ("index", .optional .string operand.index), ("scale", .nat operand.scale.toNat),
      ("displacement", .int operand.displacement.toInt)]

/-- Reads a memory operand. -/
def MemoryOperand.ofJson? (json : Json) : Option MemoryOperand := do
  match ← json.record? ["segment", "base", "index", "scale", "displacement"] with
  | [segment, base, index, scale, displacement] =>
      some
        { segment := ← Json.nullable? Json.string? segment
          base := ← Json.nullable? Json.string? base
          index := ← Json.nullable? Json.string? index
          scale := ← Json.required? Json.uint32? scale
          displacement := ← Json.required? Json.int64? displacement }
  | _ => none

/-- The JSON form of what an operand denotes. -/
def OperandKind.toJson : OperandKind → Json
  | register name => .tagged "Register" (.string name)
  | memory operand => .tagged "Memory" operand.toJson
  | immediate value => .tagged "Immediate" (.nat value.toNat)

/-- Reads what an operand denotes. -/
def OperandKind.ofJson? (json : Json) : Option OperandKind := do
  match ← json.choice? with
  | ("Register", some content) => return .register (← content.string?)
  | ("Memory", some content) => return .memory (← MemoryOperand.ofJson? content)
  | ("Immediate", some content) => return .immediate (← content.uint64?)
  | _ => none

/-- The JSON form of an operand. -/
def Operand.toJson (operand : Operand) : Json :=
  .record [("kind", operand.kind.toJson), ("size", .nat operand.size.toNat)]

/-- Reads an operand. -/
def Operand.ofJson? (json : Json) : Option Operand := do
  match ← json.record? ["kind", "size"] with
  | [kind, size] =>
      some
        { kind := ← Json.required? OperandKind.ofJson? kind
          size := ← Json.required? Json.uint8? size }
  | _ => none

/-- The JSON form of an instruction. -/
def Instruction.toJson (instruction : Instruction) : Json :=
  .record
    [("address", .nat instruction.address.toNat), ("length", .nat instruction.length),
      ("mnemonic", .string instruction.mnemonic.name),
      ("operands", .array (instruction.operands.map Operand.toJson))]

/-- Reads an instruction, whose length may be left out. -/
def Instruction.ofJson? (json : Json) : Option Instruction := do
  match ← json.record? ["address", "length", "mnemonic", "operands"] with
  | [address, length, mnemonic, operands] =>
      some
        { address := ← Json.required? Json.uint64? address
          length := (← Json.nullable? Json.nat? length).getD 0
          mnemonic := ⟨← Json.required? Json.string? mnemonic⟩
          operands := ← Json.required? (Json.list? Operand.ofJson?) operands }
  | _ => none

end VmRecovery.Native

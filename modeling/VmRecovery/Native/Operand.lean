import VmRecovery.Machine.Registers

/-!
# Operands of native instructions

The part of an operand that the handler shapes look at, and the effective address of a memory
operand against the registers of one executed step. Segment bases are not modelled.
-/

namespace VmRecovery.Native

open Machine

/-- A memory operand: `segment:[base + index * scale + displacement]`. -/
structure MemoryOperand where
  /-- The segment named by an override, if there is one. -/
  segment : Option String := none
  base : Option String := none
  index : Option String := none
  scale : UInt32 := 0
  displacement : Int64 := 0
  deriving DecidableEq, Repr, Inhabited

namespace MemoryOperand

/-- An operand that addresses memory through one register. -/
def based (base : String) : MemoryOperand :=
  { base := some base, scale := 1 }

/-- Adds a scaled index register. -/
def withIndex (operand : MemoryOperand) (index : String) (scale : UInt32) : MemoryOperand :=
  { operand with index := some index, scale }

/-- Sets the displacement. -/
def withDisplacement (operand : MemoryOperand) (displacement : Int64) : MemoryOperand :=
  { operand with displacement }

/-- The 32-bit value of a register that may be left out, which counts as zero. -/
def registerValue (registers : Registers) : Option String → Option UInt32
  | none => some 0
  | some name => (registers.read name).map UInt64.toUInt32

/-- The 32-bit effective address. A scale of zero counts as one. There is no address if the
operand names a register that does not exist. -/
def effectiveAddress (operand : MemoryOperand) (registers : Registers) : Option UInt64 := do
  let base ← registerValue registers operand.base
  let index ← registerValue registers operand.index
  return (operand.displacement.toUInt64.toUInt32 + base + index * max operand.scale 1).toUInt64

end MemoryOperand

/-- What an operand denotes. -/
inductive OperandKind where
  | register (name : String)
  | memory (operand : MemoryOperand)
  /-- An immediate, or the absolute target of a direct branch. -/
  | immediate (value : UInt64)
  deriving DecidableEq, Repr, Inhabited

/-- An operand with the number of bytes it accesses. -/
structure Operand where
  kind : OperandKind
  size : UInt8
  deriving DecidableEq, Repr, Inhabited

/-- Whether an operand is an immediate or a direct branch target. -/
def Operand.isImmediate (operand : Operand) : Bool :=
  match operand.kind with
  | .immediate _ => true
  | _ => false

end VmRecovery.Native

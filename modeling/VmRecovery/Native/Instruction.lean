import VmRecovery.Native.Operand

/-!
# Native instructions

A decoded instruction as far as handlers are recognised by it: its mnemonic and its operands.
-/

namespace VmRecovery.Native

/-- The name of an operation of the processor, in the capitalisation of the decoder. -/
structure Mnemonic where
  name : String
  deriving DecidableEq, Repr, Inhabited

namespace Mnemonic

def mov : Mnemonic := ⟨"Mov"⟩
def movzx : Mnemonic := ⟨"Movzx"⟩
def movsx : Mnemonic := ⟨"Movsx"⟩
def push : Mnemonic := ⟨"Push"⟩
def call : Mnemonic := ⟨"Call"⟩
def jmp : Mnemonic := ⟨"Jmp"⟩
def ret : Mnemonic := ⟨"Ret"⟩
def imul : Mnemonic := ⟨"Imul"⟩
def shld : Mnemonic := ⟨"Shld"⟩
def shrd : Mnemonic := ⟨"Shrd"⟩

end Mnemonic

/-- One decoded instruction. -/
structure Instruction where
  address : UInt64
  /-- The number of bytes it is encoded in. -/
  length : Nat := 0
  mnemonic : Mnemonic
  operands : List Operand := []
  deriving DecidableEq, Repr, Inhabited

namespace Instruction

/-- The memory operand at a place in the operand list, with its access size. -/
def memoryOperand? (instruction : Instruction) (place : Nat) : Option (MemoryOperand × UInt8) :=
  match instruction.operands[place]? with
  | some { kind := .memory operand, size } => some (operand, size)
  | _ => none

/-- The register at a place in the operand list. -/
def registerOperand? (instruction : Instruction) (place : Nat) : Option String :=
  match instruction.operands[place]? with
  | some { kind := .register name, .. } => some name
  | _ => none

/-- Whether the first operand is an immediate or a direct branch target. -/
def hasImmediateTarget (instruction : Instruction) : Bool :=
  instruction.operands.head?.any Operand.isImmediate

/-- A call of an address that is part of the instruction. -/
def isDirectCall (instruction : Instruction) : Bool :=
  instruction.mnemonic == .call && instruction.hasImmediateTarget

/-- A return, or a jump to an address from a register or from memory. This is how one handler
hands over to the next. -/
def isDispatch (instruction : Instruction) : Bool :=
  instruction.mnemonic == .ret ||
    (instruction.mnemonic == .jmp && !instruction.hasImmediateTarget)

/-- Whether a handler ends with this instruction, whatever control flow was observed. -/
def endsHandler (instruction : Instruction) : Bool :=
  instruction.isDispatch || instruction.isDirectCall

/-- A push of an immediate. -/
def isImmediatePush (instruction : Instruction) : Bool :=
  instruction.mnemonic == .push && instruction.hasImmediateTarget

end Instruction

end VmRecovery.Native

import VmRecovery.Handler.Pattern
import VmRecovery.Native.Decoder
import VmRecovery.Trace.Occurrence

/-!
# Reading an occurrence by its pattern

A pattern tells which native instruction an operand is taken from; an occurrence tells the
registers that this instruction saw. Offsets of virtual registers are counted from the save
area in 32-bit arithmetic.
-/

namespace VmRecovery.Handler

open Native Trace

/-- The operation of an arithmetic pattern. -/
def BinaryOp.operation : BinaryOp → Operation
  | add => .add
  | nor => .nor
  | nand => .nand
  | shl => .shl
  | shr => .shr

/-- The operation of a double shift pattern. -/
def DoubleShiftOp.operation : DoubleShiftOp → Operation
  | shld => .shld
  | shrd => .shrd

/-- The instructions that a value is stored with. -/
def isMove (mnemonic : Mnemonic) : Bool :=
  mnemonic == .mov || mnemonic == .movzx || mnemonic == .movsx

/-- The offset of an address from the save area, modulo 2³². -/
def slotOffset (saveArea address : UInt64) : UInt64 :=
  (address.toUInt32 - saveArea.toUInt32).toUInt64

namespace Pattern

/-- The native instruction that the operand of an occurrence is read from. -/
def anchor? : Pattern → Option UInt64
  | popReg _ store _ => some store
  | pushReg _ load => some load
  | pushImm _ _ store => some store
  | _ => none

/-- The offset of the save slot that the memory operand at a place addressed. -/
def slotAt? (place : Nat) (saveArea : UInt64) (step : Step) (instruction : Native.Instruction) :
    Option UInt64 := do
  let (memory, _) ← instruction.memoryOperand? place
  let address ← memory.effectiveAddress step.registers
  return slotOffset saveArea address

/-- The step that executed an instruction, together with the instruction. -/
def anchored? (occurrence : Occurrence) (decoder : Decoder) (address : UInt64) :
    Option (Step × Native.Instruction) := do
  return (← occurrence.stepAt? address, ← decoder.decode address)

/-- The operation of one occurrence with its operands. There is none if the occurrence lacks
the step that an operand is read from, or that step does not have the operand. -/
def operation? (occurrence : Occurrence) (decoder : Decoder) (saveArea : UInt64) :
    Pattern → Option Operation
  | popReg _ store pair => do
      let (step, instruction) ← anchored? occurrence decoder store
      if isMove instruction.mnemonic then
        return .popReg (← slotAt? 0 saveArea step instruction) pair
      else none
  | pushReg _ load => do
      let (step, instruction) ← anchored? occurrence decoder load
      return .pushReg (← slotAt? 1 saveArea step instruction)
  | pushImm _ _ store => do
      let (step, instruction) ← anchored? occurrence decoder store
      return .pushImm (← step.registers.read (← instruction.registerOperand? 1))
  | pushVsp _ => some .pushVsp
  | readMem _ segment => some (.readMem segment)
  | writeMem _ => some .writeMem
  | binary op _ => some op.operation
  | doubleShift op _ => some op.operation
  | mul _ => some .mul
  | cpuid => some .cpuid
  | jmpConst => some .jmpConst
  | jmp => some .jmp
  | writeVsp => some .writeVsp
  | popfd => some .popfd
  | exit restored => some (.exit restored)

/-- The register that holds the bytecode pointer of an occurrence: the one that the pattern
reveals, or else the selected one. -/
def codeRegister? (pattern : Pattern) (selection : Selection) : Option String :=
  match pattern.pair? with
  | some pair => some pair.code
  | none => selection.code?

/-- The instruction that an occurrence performs. There is none for a pattern that does not fit
the selection. -/
def instruction? (pattern : Pattern) (occurrence : Occurrence) (selection : Selection)
    (decoder : Decoder) (saveArea : UInt64) : Option Instruction :=
  if pattern.fits selection then
    (pattern.operation? occurrence decoder saveArea).map fun operation =>
      { position := occurrence.position (pattern.codeRegister? selection)
        size := pattern.size
        operation }
  else none

/-- The native instruction that is looked up to read an occurrence, if there is one. -/
def lookups (pattern : Pattern) (occurrence : Occurrence) (selection : Selection) :
    List UInt64 :=
  if pattern.fits selection then
    pattern.anchor?.toList.filter fun address => (occurrence.stepAt? address).isSome
  else []

end Pattern

end VmRecovery.Handler

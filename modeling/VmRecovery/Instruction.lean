import VmRecovery.Position
import VmRecovery.RegisterPair

/-!
# Recovered instructions

What a handler occurrence does, as an instruction of the virtual machine, and the line of
assembly text it is listed as.
-/

namespace VmRecovery

/-- A segment override of a memory access. -/
inductive Segment where
  | fs
  deriving DecidableEq, Repr, Inhabited

/-- A value that the entry routine spills to the native stack. -/
inductive SavedValue where
  | constant (value : UInt64)
  | register (name : String)
  deriving DecidableEq, Repr, Inhabited

/-- The text of a spilled value. -/
def SavedValue.text : SavedValue → String
  | constant value => hex value
  | register name => name

/-- What an instruction of the virtual machine does. -/
inductive Operation where
  /-- Entry into the virtual machine with the spilled values, highest slot first. -/
  | init (saved : List SavedValue)
  /-- Pushes the virtual register at an offset in the save area. -/
  | pushReg (offset : UInt64)
  | pushImm (value : UInt64)
  | pushVsp
  /-- Pops into the virtual register at an offset; the handler reveals the register pair. -/
  | popReg (offset : UInt64) (pair : RegisterPair)
  | writeVsp
  | readMem (segment : Option Segment)
  | writeMem
  | add
  | nor
  | nand
  | shl
  | shr
  | shld
  | shrd
  | mul
  | cpuid
  | jmp
  | jmpConst
  | popfd
  /-- Leaves the virtual machine with native registers restored in slot order. -/
  | exit (restored : List String)
  /-- Leaves the virtual machine through a call that comes back into virtualized code. -/
  | exitCall (target : UInt64)
  | unknown
  deriving DecidableEq, Repr, Inhabited

namespace Operation

/-- The name that an operation is listed under. -/
def mnemonic : Operation → String
  | init _ => "vInit"
  | pushReg _ => "vPushReg"
  | pushImm _ => "vPushImm"
  | pushVsp => "vPushVsp"
  | popReg _ _ => "vPopReg"
  | writeVsp => "vWriteVsp"
  | readMem _ => "vReadMem"
  | writeMem => "vWriteMem"
  | add => "vAdd"
  | nor => "vNor"
  | nand => "vNand"
  | shl => "vShl"
  | shr => "vShr"
  | shld => "vShld"
  | shrd => "vShrd"
  | mul => "vMul"
  | cpuid => "vCpuid"
  | jmp => "vJmp"
  | jmpConst => "vJmpConst"
  | popfd => "vPopfd"
  | exit _ => "vExit"
  | exitCall _ => "vExitCall"
  | unknown => "vUnknown"

/-- Whether an operation ends its block. -/
def isTerminal : Operation → Bool
  | jmp => true
  | jmpConst => true
  | exit _ => true
  | exitCall _ => true
  | _ => false

/-- The operands, with the space before them. -/
def operandText : Operation → String
  | pushReg offset => " vR[" ++ hex offset ++ "]"
  | popReg offset _ => " vR[" ++ hex offset ++ "]"
  | pushImm value => " " ++ hex value
  | readMem (some .fs) => " fs"
  | exitCall target => " " ++ hex target
  | init saved => " [" ++ separated ", " (saved.map SavedValue.text) ++ "]"
  | exit restored => " [" ++ separated ", " restored ++ "]"
  | _ => ""

end Operation

/-- One recovered instruction. -/
structure Instruction where
  position : Position
  /-- Width of the operands in bytes, zero for operations that have none. -/
  size : UInt8
  operation : Operation
  deriving DecidableEq, Repr, Inhabited

/-- The line that an instruction is listed as: position, mnemonic with the width in bits, and
operands. -/
def Instruction.text (instruction : Instruction) : String :=
  instruction.position.text ++ " " ++ instruction.operation.mnemonic ++
    (if instruction.size == 0 then "" else toString (instruction.size.toNat * 8)) ++
    instruction.operation.operandText

end VmRecovery

import VmRecovery.Instruction
import VmRecovery.Selection

/-!
# Handler patterns

What has been learned about a handler independently of any single occurrence: the operation it
performs, its operand width, and the native instructions inside it that the operands of each
new occurrence are read from.
-/

namespace VmRecovery.Handler

/-- The arithmetic of two values from the VM stack. -/
inductive BinaryOp where
  | add
  | nor
  | nand
  | shl
  | shr
  deriving DecidableEq, Repr, Inhabited

/-- The shifts of two joined values. -/
inductive DoubleShiftOp where
  | shld
  | shrd
  deriving DecidableEq, Repr, Inhabited

/-- A recognised handler. -/
inductive Pattern where
  | popReg (size : UInt8) (store : UInt64) (pair : RegisterPair)
  | pushReg (size : UInt8) (load : UInt64)
  | pushImm (size : UInt8) (load store : UInt64)
  | pushVsp (size : UInt8)
  | readMem (size : UInt8) (segment : Option Segment)
  | writeMem (size : UInt8)
  | binary (op : BinaryOp) (size : UInt8)
  | doubleShift (op : DoubleShiftOp) (size : UInt8)
  | mul (size : UInt8)
  | cpuid
  | jmpConst
  | jmp
  | writeVsp
  | popfd
  | exit (restored : List String)
  deriving DecidableEq, Repr, Inhabited

namespace Pattern

/-- The name that a pattern is reported and stored under. -/
def name : Pattern → String
  | popReg _ _ _ => "pop_reg"
  | pushReg _ _ => "push_reg"
  | pushImm _ _ _ => "push_imm"
  | pushVsp _ => "push_vsp"
  | readMem _ _ => "read_mem"
  | writeMem _ => "write_mem"
  | binary _ _ => "binary"
  | doubleShift _ _ => "double_shift"
  | mul _ => "mul"
  | cpuid => "cpuid"
  | jmpConst => "jmp_const"
  | jmp => "jmp"
  | writeVsp => "write_vsp"
  | popfd => "popfd"
  | exit _ => "exit"

/-- The operand width in bytes, zero for handlers that have none. -/
def size : Pattern → UInt8
  | popReg size _ _ => size
  | pushReg size _ => size
  | pushImm size _ _ => size
  | pushVsp size => size
  | readMem size _ => size
  | writeMem size => size
  | binary _ size => size
  | doubleShift _ size => size
  | mul size => size
  | _ => 0

/-- The register pair that a handler reveals. -/
def pair? : Pattern → Option RegisterPair
  | popReg _ _ pair => some pair
  | _ => none

/-- A pattern fits unless it reveals another register pair than the selected one. -/
def fits (pattern : Pattern) (selection : Selection) : Bool :=
  pattern.pair?.all selection.admits

end Pattern

end VmRecovery.Handler

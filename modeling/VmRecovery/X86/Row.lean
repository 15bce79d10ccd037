import VmRecovery.X86.Encoding

/-!
# Rows of the opcode maps

An opcode either stands for one instruction, or the byte behind it tells which.
-/

namespace VmRecovery.X86

/-- The instructions of an opcode. -/
inductive Row where
  /-- One instruction without a byte for register and place. -/
  | plain (encoding : Encoding)
  /-- The instructions by the byte behind the opcode. -/
  | byByte (encoding? : Nat → Option Encoding)

namespace Row

/-- The instructions by the field of the byte behind the opcode. -/
def byField (encoding? : Nat → Option Encoding) : Row :=
  .byByte fun byte => encoding? (fieldOf byte)

/-- An instruction that has the same encoding for every field. -/
def always (encoding : Encoding) : Row :=
  .byByte fun _ => some encoding

/-- An instruction for a single field. -/
def only (field : Nat) (encoding : Encoding) : Row :=
  .byField fun other => if other = field then some encoding else none

/-- An instruction that needs a place in memory. Other bytes behind the opcode belong to vector
instructions, which are not decoded. -/
def inMemory (encoding : Encoding) : Row :=
  .byByte fun byte => if namesMemory byte then some encoding else none

/-- An instruction without operands. -/
def bare (mnemonic : String) : Row :=
  .plain { mnemonic }

/-- Reads the byte behind the opcode, if there is one, and the instruction it tells. -/
def read (context : Context) : Row → Read (Encoding × Option Places)
  | plain encoding => return (encoding, none)
  | byByte encoding? => do
      let places ← Places.read context
      let encoding ← StateT.lift (encoding? places.byte)
      return (encoding, some places)

end Row

/-- The conditions in the order of their opcodes. -/
def conditionNames : List String :=
  ["o", "no", "b", "ae", "e", "ne", "be", "a", "s", "ns", "p", "np", "l", "ge", "le", "g"]

/-- The conditional instruction of an opcode. -/
def conditional (stem : String) (opcode : Nat) : String :=
  stem ++ conditionNames.getD (opcode % 16) ""

/-- Of the names of an instruction the one for a width. -/
def named (word dword qword : String) : Width → String
  | .word => word
  | .qword => qword
  | _ => dword

/-- The size of a far code address in memory: a selector and an offset. -/
def farSize (width : Width) : UInt8 :=
  width.size + 2

/-- The width of an operand that has at most 32 bits. -/
def Width.narrow : Width → Width
  | .qword => .dword
  | width => width

end VmRecovery.X86

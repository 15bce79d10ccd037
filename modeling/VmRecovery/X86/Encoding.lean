import VmRecovery.Native.Instruction
import VmRecovery.X86.Place

/-!
# Operand forms

How the operands of an instruction are encoded. An `Encoding` lists the forms of the operands
in the order in which they are written; reading them in that order consumes the immediates in
the order in which they are encoded.
-/

namespace VmRecovery.X86

open Native

/-- How an operand is encoded. -/
inductive Form where
  /-- A register or memory operand. -/
  | place (width : Width)
  /-- A memory operand of which only the address is taken. -/
  | address
  /-- A memory operand of the given size. -/
  | memory (size : UInt8)
  /-- A register of the given width, or the selector of a segment in memory. -/
  | selector (width : Width)
  /-- A register named behind the opcode. -/
  | register (width : Width)
  /-- A register whose number is part of the opcode. -/
  | opcodeRegister (width : Width) (number : Nat)
  /-- A register that the opcode implies. -/
  | implied (width : Width) (number : Nat)
  /-- A register by its name, which has no number among the general registers. -/
  | special (name : String) (size : UInt8)
  /-- The constant one. -/
  | one
  /-- An immediate of a width, zero-extended. -/
  | immediate (width : Width)
  /-- An immediate of one width, sign-extended to an operand of another width. -/
  | signed (encoded width : Width)
  /-- Memory at an absolute address. -/
  | absolute (width : Width)
  /-- An entry of the table of bytes that the accumulator is an index of. -/
  | tableEntry
  /-- A code address of a width at a signed distance from the next instruction. -/
  | near (encoded width : Width)
  /-- A far code address, which is no operand here. -/
  | far (offset : Width)
  deriving DecidableEq, Repr

/-- How an instruction is encoded. -/
structure Encoding where
  mnemonic : String
  forms : List Form := []
  /-- The lock prefix is allowed if the first operand is in memory. -/
  lockable : Bool := false
  deriving DecidableEq, Repr

namespace Form

/-- A register operand. -/
def registerOperand (context : Context) (width : Width) (number : Nat) : Relative Operand :=
  fun _ => { kind := .register (context.registerName width number), size := width.size }

/-- An immediate operand. -/
def immediateOperand (value : UInt64) (size : UInt8) : Relative Operand :=
  fun _ => { kind := .immediate value, size }

/-- A memory operand of a size. -/
def memoryOperand (operand : Relative MemoryOperand) (size : UInt8) : Relative Operand :=
  fun next => { kind := .memory (operand next), size }

/-- An immediate of a full operand. The widest operands have an immediate of half their
width. -/
def fullImmediate : Width → Form
  | .qword => .signed .dword .qword
  | width => .immediate width

/-- A near code address of the full distance. -/
def fullNear : Width → Form
  | .word => .near .word .word
  | width => .near .dword width

/-- The operand that is an entry of the table of bytes at the base register. -/
def tableOperand (context : Context) : Operand :=
  let base := context.registerName context.addressWidth 3
  { kind := .memory (Place.operand context (some base) (some "AL") 1 0), size := 1 }

/-- Reads an operand. There is an operand in memory or in a register only if the instruction has
such a place. -/
def read (context : Context) (places : Option Places) : Form → Read (Option (Relative Operand))
  | place width => do
      match places.map Places.place with
      | some (.register number) => return some (registerOperand context width number)
      | some (.memory operand) => return some (memoryOperand operand width.size)
      | none => failure
  | address => do
      match places.map Places.place with
      | some (.memory operand) => return some (memoryOperand operand 0)
      | _ => failure
  | memory size => do
      match places.map Places.place with
      | some (.memory operand) => return some (memoryOperand operand size)
      | _ => failure
  | selector width => do
      match places.map Places.place with
      | some (.register number) => return some (registerOperand context width number)
      | some (.memory operand) => return some (memoryOperand operand Width.word.size)
      | none => failure
  | register width => do
      match places with
      | some places => return some (registerOperand context width places.register)
      | none => failure
  | opcodeRegister width number =>
      return some (registerOperand context width (context.prefixes.widen 0 number))
  | implied width number => return some (registerOperand context width number)
  | special name size => return some fun _ => { kind := .register name, size }
  | one => return some (immediateOperand 1 1)
  | immediate width => do
      return some (immediateOperand (← Read.value width) width.size)
  | signed encoded width => do
      return some (immediateOperand (encoded.signExtend (← Read.value encoded)) width.size)
  | absolute width => do
      let offset ← Read.value context.addressWidth
      return some (memoryOperand (fun _ => Place.operand context none none 1 offset) width.size)
  | tableEntry => return some fun _ => tableOperand context
  | near encoded width => do
      let distance := encoded.signExtend (← Read.value encoded)
      return some fun next =>
        { kind := .immediate (width.truncate (next + distance)), size := width.size }
  | far offset => do
      let _ ← Read.value offset
      let _ ← Read.value .word
      return none

end Form

namespace Encoding

/-- Whether the prefixes are allowed: a lock needs a lockable instruction on memory. -/
def admits (encoding : Encoding) (context : Context) (places : Option Places) : Bool :=
  !context.prefixes.lock ||
    (encoding.lockable &&
      match encoding.forms.head?, places with
      | some (.place _), some places => places.place.isMemory
      | some (.memory _), some places => places.place.isMemory
      | _, _ => false)

/-- Reads the operands of an instruction. -/
def readOperands (encoding : Encoding) (context : Context) (places : Option Places) :
    Read (List (Relative Operand)) := do
  if encoding.admits context places then
    return (← encoding.forms.mapM (Form.read context places)).filterMap id
  else failure

end Encoding

end VmRecovery.X86

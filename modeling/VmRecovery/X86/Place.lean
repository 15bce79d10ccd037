import VmRecovery.Native.Operand
import VmRecovery.X86.Prefix

/-!
# Addressing forms

The byte behind an opcode names a register and a place, which is a register or a memory operand.
Displacements are sign-extended to the width of addresses. An operand relative to the
instruction pointer depends on where the next instruction starts; its displacement is the
absolute address it refers to.
-/

namespace VmRecovery.X86

open Native

/-- Reading from the front of the bytes of an instruction, which may be too few. -/
abbrev Read := StateT (List UInt8) Option

namespace Read

/-- The next byte. -/
def byte : Read Nat := do
  match ← get with
  | [] => failure
  | byte :: rest =>
      set rest
      return byte.toNat

/-- The number in the next bytes, lowest byte first. -/
def littleEndian : Nat → Read Nat
  | 0 => return 0
  | count + 1 => do
      let low ← byte
      let high ← littleEndian count
      return low + 256 * high

/-- A value of a width. -/
def value (width : Width) : Read UInt64 := do
  return (← littleEndian width.bytes).toUInt64

end Read

/-- An operand as a function of the address of the next instruction. -/
abbrev Relative (α : Type) := UInt64 → α

/-- The mode of a code segment together with the prefixes of an instruction. -/
structure Context where
  mode : Mode
  prefixes : Prefixes
  deriving DecidableEq, Repr, Inhabited

namespace Context

/-- The width of operands. -/
def operandWidth (context : Context) : Width :=
  context.prefixes.operandWidth context.mode

/-- The width of values on the stack. -/
def stackWidth (context : Context) : Width :=
  context.prefixes.stackWidth context.mode

/-- The width of code addresses. -/
def branchWidth (context : Context) : Width :=
  context.prefixes.branchWidth context.mode

/-- The width of data addresses. -/
def addressWidth (context : Context) : Width :=
  context.prefixes.addressWidth context.mode

/-- The name of a register. -/
def registerName (context : Context) (width : Width) (number : Nat) : String :=
  Register.name width context.prefixes.extension.isSome number

end Context

/-- A register or a memory operand. -/
inductive Place where
  | register (number : Nat)
  | memory (operand : Relative MemoryOperand)

/-- Whether a place is in memory. -/
def Place.isMemory : Place → Bool
  | register _ => false
  | memory _ => true

/-- The byte behind an opcode, with the register and the place that it names. -/
structure Places where
  byte : Nat
  register : Nat
  place : Place

/-- The field of the byte behind an opcode that tells apart the instructions that share the
opcode, if it does not name a register. -/
def fieldOf (byte : Nat) : Nat :=
  byte / 8 % 8

/-- Whether the byte behind an opcode names a place in memory. -/
def namesMemory (byte : Nat) : Bool :=
  byte < 0xc0

namespace Place

/-- A displacement of a width, sign-extended to the width of addresses. -/
def displacement (context : Context) (width : Width) : Read UInt64 := do
  let value ← Read.value width
  return context.addressWidth.truncate (width.signExtend value)

/-- The displacement behind an addressing form, by its two-bit size field. -/
def displacementFor (context : Context) (wide : Width) : Nat → Read UInt64
  | 1 => displacement context .byte
  | 2 => displacement context wide
  | _ => return 0

/-- The base and index registers of the eight forms of 16-bit addressing. -/
def wordForms : List (Option String × Option String) :=
  [(some "BX", some "SI"), (some "BX", some "DI"), (some "BP", some "SI"), (some "BP", some "DI"),
    (some "SI", none), (some "DI", none), (some "BP", none), (some "BX", none)]

/-- A memory operand with the override of its segment. -/
def operand (context : Context) (base index : Option String) (scale : UInt32)
    (displacement : UInt64) : MemoryOperand :=
  { segment := context.prefixes.segment, base, index, scale
    displacement := displacement.toInt64 }

/-- A 16-bit addressing form. One form stands for a bare displacement. -/
def readWordForm (context : Context) (size form : Nat) : Read Place := do
  if size = 0 && form = 6 then
    let offset ← displacement context .word
    return .memory fun _ => operand context none none 1 offset
  else
    let (base, index) := wordForms.getD form (none, none)
    let offset ← displacementFor context .word size
    return .memory fun _ => operand context base index 1 offset

/-- The address that a displacement from the next instruction refers to. -/
def relativeOperand (context : Context) (offset : UInt64) : Place :=
  .memory fun next =>
    let base := if context.addressWidth = .qword then "RIP" else "EIP"
    operand context (some base) none 1 (context.addressWidth.truncate (next + offset))

/-- An addressing form with a byte for base, index and scale. The scale is the encoded one even
without an index. -/
def readScaledForm (context : Context) (size : Nat) : Read Place := do
  let scaled ← Read.byte
  let indexNumber := context.prefixes.widen 1 (scaled / 8 % 8)
  let index :=
    if indexNumber = 4 then none
    else some (Register.name context.addressWidth false indexNumber)
  let scale : UInt32 := 1 <<< (scaled / 64).toUInt32
  if size = 0 && scaled % 8 = 5 then
    let offset ← displacement context .dword
    return .memory fun _ => operand context none index scale offset
  else
    let base := Register.name context.addressWidth false (context.prefixes.widen 0 (scaled % 8))
    let offset ← displacementFor context .dword size
    return .memory fun _ => operand context (some base) index scale offset

/-- A 32-bit or 64-bit addressing form. -/
def readWideForm (context : Context) (size form : Nat) : Read Place := do
  if form = 4 then readScaledForm context size
  else if size = 0 && form = 5 then
    let offset ← displacement context .dword
    if context.mode = .bits64 then return relativeOperand context offset
    else return .memory fun _ => operand context none none 1 offset
  else
    let base := Register.name context.addressWidth false (context.prefixes.widen 0 form)
    let offset ← displacementFor context .dword size
    return .memory fun _ => operand context (some base) none 1 offset

end Place

/-- Reads the byte behind an opcode and what belongs to it. -/
def Places.read (context : Context) : Read Places := do
  let byte ← Read.byte
  let size := byte / 64
  let form := byte % 8
  let place ←
    if size = 3 then pure (.register (context.prefixes.widen 0 form))
    else if context.addressWidth = .word then Place.readWordForm context size form
    else Place.readWideForm context size form
  return { byte, register := context.prefixes.widen 2 (fieldOf byte), place }

end VmRecovery.X86

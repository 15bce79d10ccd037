import VmRecovery.Machine.Registers
import Std.Data.TreeMap

/-!
# Machine snapshots

A snapshot is the register file together with the bytes of memory that have been written so
far. Copying a snapshot is what forks an execution at a two-way VM branch: the branch selector
lies on top of the operand stack, and `forceSlot` replaces it.
-/

namespace VmRecovery.Machine

/-- The bytes written so far, by address. -/
abbrev Memory := Std.TreeMap UInt64 UInt8

namespace Memory

/-- The little-endian dword at an address, if all of its bytes have been written. Addresses
wrap around at the end of the address space. -/
def readDword (memory : Memory) (address : UInt64) : Option UInt32 := do
  let byte0 ← memory[address]?
  let byte1 ← memory[address + 1]?
  let byte2 ← memory[address + 2]?
  let byte3 ← memory[address + 3]?
  return byte0.toUInt32 ||| (byte1.toUInt32 <<< 8) ||| (byte2.toUInt32 <<< 16) |||
    (byte3.toUInt32 <<< 24)

/-- Stores a dword, lowest byte first. -/
def writeDword (memory : Memory) (address : UInt64) (value : UInt32) : Memory :=
  memory
    |>.insert address value.toUInt8
    |>.insert (address + 1) (value >>> 8).toUInt8
    |>.insert (address + 2) (value >>> 16).toUInt8
    |>.insert (address + 3) (value >>> 24).toUInt8

end Memory

/-- Registers and written memory at one moment. -/
structure Snapshot where
  registers : Registers := {}
  memory : Memory := {}
  deriving Inhabited

namespace Snapshot

/-- An otherwise empty snapshot positioned at a native address. -/
def positioned (entry : UInt64) : Snapshot :=
  { registers := { eip := entry.toUInt32 } }

/-- The native address of the next instruction. -/
def instructionPointer (snapshot : Snapshot) : UInt64 :=
  snapshot.registers.eip.toUInt64

/-- The dword at an address, if all of its bytes have been written. -/
def readDword (snapshot : Snapshot) (address : UInt64) : Option UInt32 :=
  snapshot.memory.readDword address

/-- Stores a dword. -/
def writeDword (snapshot : Snapshot) (address : UInt64) (value : UInt32) : Snapshot :=
  { snapshot with memory := snapshot.memory.writeDword address value }

/-- Overwrites the stack slot that a register points to. There is no result for a name that
stands for no register. -/
def forceSlot (snapshot : Snapshot) (register : String) (value : UInt64) : Option Snapshot :=
  (snapshot.registers.read register).map fun slot => snapshot.writeDword slot value.toUInt32

/-- Two snapshots are equal if they agree on every register and every byte. -/
instance : BEq Snapshot where
  beq left right :=
    left.registers == right.registers && left.memory.toList == right.memory.toList

end Snapshot

end VmRecovery.Machine

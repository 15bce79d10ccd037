import VmRecovery.Native.Instruction

/-!
# Decoders

A decoder answers what instruction lies at an address. Besides, it tells the addresses whose
bytes it looked at and found to be no instruction, because every such look-up is reported.
-/

namespace VmRecovery.Native

/-- A source of native instructions. -/
structure Decoder where
  decode : UInt64 → Option Instruction
  /-- The address holds bytes, and they are no instruction. -/
  isInvalid : UInt64 → Bool := fun _ => false

namespace Decoder

/-- The mnemonic of the instruction at an address. -/
def mnemonicAt (decoder : Decoder) (address : UInt64) : Option Mnemonic :=
  (decoder.decode address).map Instruction.mnemonic

/-- The access size of the memory operand at a place of the instruction at an address, and zero
if there is none. Loads have it in the second place, stores in the first. -/
def accessSize (decoder : Decoder) (place : Nat) (address : UInt64) : UInt8 :=
  match (decoder.decode address).bind (·.memoryOperand? place) with
  | some (_, size) => size
  | none => 0

/-- The access size of a load from memory. -/
def loadSize (decoder : Decoder) (address : UInt64) : UInt8 :=
  decoder.accessSize 1 address

/-- The access size of a store to memory. -/
def storeSize (decoder : Decoder) (address : UInt64) : UInt8 :=
  decoder.accessSize 0 address

/-- Whether a handler ends at an address, whatever control flow was observed. -/
def endsHandler (decoder : Decoder) (address : UInt64) : Bool :=
  (decoder.decode address).any Instruction.endsHandler

/-- Those of the addresses that were looked up in vain, in the order of the look-ups. -/
def invalidAmong (decoder : Decoder) (lookups : List UInt64) : List UInt64 :=
  lookups.filter decoder.isInvalid

end Decoder

/-- Instructions decoded in advance, at most one for each address. -/
structure Table where
  instructions : List Instruction := []
  deriving Repr, Inhabited

namespace Table

/-- Adds an instruction; it takes the place of an earlier one at its address. -/
def insert (table : Table) (instruction : Instruction) : Table :=
  { instructions :=
      (table.instructions.filter fun other => other.address ≠ instruction.address) ++
        [instruction] }

/-- A table of the given instructions, of which the last one at an address counts. -/
def ofList (instructions : List Instruction) : Table :=
  instructions.foldl insert {}

/-- The number of addresses with an instruction. -/
def size (table : Table) : Nat :=
  table.instructions.length

/-- The instruction at an address. -/
def find? (table : Table) (address : UInt64) : Option Instruction :=
  table.instructions.find? fun instruction => instruction.address == address

/-- The decoder that answers from a table. -/
def decoder (table : Table) : Decoder :=
  { decode := table.find? }

end Table

end VmRecovery.Native

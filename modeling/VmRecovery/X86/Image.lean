import VmRecovery.Native.Decoder
import VmRecovery.X86.Opcode

/-!
# Decoding from an image

An image is code mapped at a base address. An address outside of it has no instruction; an
address inside whose bytes are no instruction, or end too early, is invalid.
-/

namespace VmRecovery.X86

open Native

/-- The largest number of bytes of an instruction. -/
def maxLength : Nat := 15

/-- Reads an instruction: its mnemonic and its operands. -/
def readInstruction (mode : Mode) : Read (String × List (Relative Operand)) := do
  let (prefixes, rest) := ({} : Prefixes).read mode (← get)
  set rest
  let context : Context := { mode, prefixes }
  let (encoding, places) ← (← Opcode.read context).read context
  return (encoding.mnemonic, ← encoding.readOperands context places)

/-- Decodes the instruction at the front of some bytes that lie at an address. -/
def decode (mode : Mode) (address : UInt64) (bytes : List UInt8) : Option Native.Instruction := do
  let window := bytes.take maxLength
  let ((mnemonic, operands), rest) ← (readInstruction mode).run window
  let length := window.length - rest.length
  let next := address + length.toUInt64
  return { address, length, mnemonic := ⟨mnemonic⟩, operands := operands.map (· next) }

/-- Code mapped at a base address. -/
structure Image where
  base : UInt64
  bytes : List UInt8
  mode : Mode := .bits32
  deriving Repr, Inhabited

namespace Image

/-- The bytes from an address on; none for an address outside the image. -/
def bytesAt (image : Image) (address : UInt64) : List UInt8 :=
  if address < image.base then [] else image.bytes.drop (address - image.base).toNat

/-- The instruction at an address. -/
def decode? (image : Image) (address : UInt64) : Option Native.Instruction :=
  decode image.mode address (image.bytesAt address)

/-- Whether an address lies in the image without having an instruction. -/
def isInvalid (image : Image) (address : UInt64) : Bool :=
  !(image.bytesAt address).isEmpty && (image.decode? address).isNone

/-- The decoder that answers from an image. -/
def decoder (image : Image) : Decoder :=
  { decode := image.decode?, isInvalid := image.isInvalid }

end Image

end VmRecovery.X86

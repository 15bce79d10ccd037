import VmRecovery.Instruction

/-!
# Blocks

A block is a straight run of recovered instructions, identified by the position of its first
one.
-/

namespace VmRecovery.Flow

/-- A straight run of recovered instructions. -/
structure Block where
  start : Position
  instructions : List Instruction := []
  deriving DecidableEq, Repr, Inhabited

namespace Block

/-- The number of instructions. -/
def length (block : Block) : Nat :=
  block.instructions.length

/-- The last instruction. -/
def last? (block : Block) : Option Instruction :=
  block.instructions.getLast?

/-- The listing of a block: a heading and one line for each instruction. -/
def text (block : Block) : String :=
  separated "\n"
    (("block " ++ block.start.text) :: block.instructions.map Instruction.text)

end Block

end VmRecovery.Flow

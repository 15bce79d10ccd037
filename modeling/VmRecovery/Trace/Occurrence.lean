import VmRecovery.Machine.Snapshot
import VmRecovery.Position

/-!
# Executed steps

An engine run records every executed instruction with the registers it saw. An occurrence is a
stretch of such steps in which one handler ran once.
-/

namespace VmRecovery.Trace

open Machine

/-- One executed native instruction with the registers before it. -/
structure Step where
  address : UInt64
  registers : Registers
  deriving DecidableEq, Repr, Inhabited

/-- The outcome of an engine run. -/
structure Run where
  steps : List Step
  /-- The state after the last step. -/
  final : Snapshot
  deriving Inhabited

/-- The steps of one handler occurrence. -/
structure Occurrence where
  steps : List Step := []
  deriving DecidableEq, Repr, Inhabited

namespace Occurrence

/-- The executed addresses in order. -/
def addresses (occurrence : Occurrence) : List UInt64 :=
  occurrence.steps.map Step.address

/-- The number of steps. -/
def length (occurrence : Occurrence) : Nat :=
  occurrence.steps.length

/-- Whether nothing was executed. -/
def isEmpty (occurrence : Occurrence) : Bool :=
  occurrence.steps.isEmpty

/-- Where the occurrence starts. -/
def start? (occurrence : Occurrence) : Option UInt64 :=
  occurrence.steps.head?.map Step.address

/-- The first and the last address. -/
def range? (occurrence : Occurrence) : Option (UInt64 × UInt64) := do
  return ((← occurrence.steps.head?).address, (← occurrence.steps.getLast?).address)

/-- The first step that executed an address. -/
def stepAt? (occurrence : Occurrence) (address : UInt64) : Option Step :=
  occurrence.steps.find? fun step => step.address == address

/-- The value of the bytecode pointer at the start. It is zero if no register is known to hold
it, or if the register does not exist. -/
def bytecodePointer (step : Step) (code : Option String) : UInt64 :=
  (code.bind step.registers.read).getD 0

/-- Where the occurrence lies in the bytecode. -/
def position (occurrence : Occurrence) (code : Option String) : Position :=
  match occurrence.steps with
  | [] => { native := 0, vm := 0 }
  | first :: _ => { native := first.address, vm := bytecodePointer first code }

/-- Two occurrences taken as one. -/
def append (occurrence following : Occurrence) : Occurrence :=
  { steps := occurrence.steps ++ following.steps }

instance : Append Occurrence := ⟨append⟩

end Occurrence

end VmRecovery.Trace

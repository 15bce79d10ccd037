import VmRecovery.Fault
import VmRecovery.Ir.Fragment
import VmRecovery.Native.Decoder
import VmRecovery.Simulation.Effect
import VmRecovery.Trace.Occurrence

/-!
# Scenarios

A scenario gives in advance what the collaborators of a recovery answer: the code that the
engine executes, and the lifts, branch targets and entries that the analyses know.
-/

namespace VmRecovery.Simulation

open Ir Machine Native Trace

/-- One simulated instruction. -/
structure Line where
  address : UInt32
  /-- Where the execution goes on; without it the instruction pointer stays. -/
  next : Option UInt32
  effects : List Effect
  deriving Repr, Inhabited

/-- What a lifter answers for the occurrences that start at an address, and end at another if
one is given. -/
structure OccurrenceLift where
  first : UInt64
  last : Option UInt64
  fragment : Option Fragment
  deriving Inhabited

/-- What a lifter answers for the block at a position. -/
structure BlockLift where
  start : Position
  fragment : Option Fragment
  deriving Inhabited

/-- What is known of the branch at the end of lifted code. -/
structure Branch where
  entry : UInt64
  targets : List UInt64
  exitCall : Option UInt64
  deriving Repr, Inhabited

/-- All answers of the collaborators. -/
structure Scenario where
  stackPointer : UInt64
  registers : Registers
  memory : List (UInt64 × UInt32)
  code : List Line
  /-- The runs, counted from zero, that fail. -/
  failing : List Nat
  lifts : List OccurrenceLift
  blockLifts : List BlockLift
  branches : List Branch
  known : List UInt64
  decoder : Decoder

namespace Scenario

/-- The snapshot of a fresh execution. -/
def snapshotAt (scenario : Scenario) (entry : UInt64) : Snapshot :=
  { registers :=
      { scenario.registers with
        eip := entry.toUInt32, esp := scenario.stackPointer.toUInt32 }
    memory := scenario.memory.foldl (fun memory cell => memory.writeDword cell.1 cell.2) {} }

/-- The instruction at an address; of several, the last one. -/
def lineAt? (scenario : Scenario) (address : UInt32) : Option Line :=
  scenario.code.reverse.find? fun line => line.address == address

/-- Executes at most `budget` instructions. An instruction that halts leaves no trace. -/
def execute (scenario : Scenario) (snapshot : Snapshot) : Nat → Except Fault Run
  | 0 => .ok { steps := [], final := snapshot }
  | budget + 1 =>
      match scenario.lineAt? snapshot.registers.eip with
      | none => .ok { steps := [], final := snapshot }
      | some line =>
          let next := line.next.getD snapshot.registers.eip
          let moved := { snapshot with registers := { snapshot.registers with eip := next } }
          match Outcome.ofEffects moved line.effects with
          | .halted => .ok { steps := [], final := snapshot }
          | .failed detail => .error (.engine detail)
          | .next after => do
              let rest ← scenario.execute after budget
              let step : Step :=
                { address := snapshot.instructionPointer, registers := snapshot.registers }
              return { rest with steps := step :: rest.steps }

/-- The lift of an occurrence between two addresses. -/
def liftBetween? (scenario : Scenario) (first last : UInt64) : Option Fragment :=
  (scenario.lifts.find? fun lift => lift.first == first && lift.last.all (· == last)).bind
    OccurrenceLift.fragment

/-- The lift of a block. A block that the scenario does not mention is lifted to nothing but its
entry. -/
def liftAt? (scenario : Scenario) (start : Position) : Option Fragment :=
  match scenario.blockLifts.find? fun lift => lift.start == start with
  | some lift => lift.fragment
  | none => some { entry := start.vm }

/-- The branch at the end of lifted code; of several for one entry, the last one. -/
def branch? (scenario : Scenario) (fragment : Fragment) : Option Branch :=
  scenario.branches.reverse.find? fun branch => branch.entry == fragment.entry

end Scenario

end VmRecovery.Simulation

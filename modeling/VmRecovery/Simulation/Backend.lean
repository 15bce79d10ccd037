import VmRecovery.Session
import VmRecovery.Simulation.Scenario

/-!
# Simulated collaborators

The collaborators of a recovery as a scenario describes them. Their state is the number of runs
so far and the list of calls, so that a caller can see which answers a recovery asked for.
-/

namespace VmRecovery.Simulation

open VmRecovery.Flow Ir Machine Native Trace

/-- A call of a collaborator. -/
inductive Call where
  | run (entry : UInt32) (budget steps : Nat)
  | runFailed (entry : UInt32) (budget : Nat)
  | liftOccurrence (first last : UInt64) (length : Nat)
  | liftBlock (start : Position) (length : Nat)
  deriving DecidableEq, Repr, Inhabited

/-- The state of simulated collaborators. -/
structure Host where
  runs : Nat := 0
  calls : Array Call := #[]
  deriving Repr, Inhabited

/-- Records a call. -/
def Host.record (host : Host) (call : Call) : Host :=
  { host with calls := host.calls.push call }

namespace Scenario

/-- Runs the engine. -/
def run (scenario : Scenario) (snapshot : Snapshot) (budget : Nat) (host : Host) :
    Except Fault Run × Host :=
  let entry := snapshot.registers.eip
  let counted := { host with runs := host.runs + 1 }
  let result :=
    if host.runs ∈ scenario.failing then .error (.engine ("run " ++ toString host.runs))
    else scenario.execute snapshot budget
  match result with
  | .ok run => (.ok run, counted.record (.run entry budget run.steps.length))
  | .error fault => (.error fault, counted.record (.runFailed entry budget))

/-- Lifts an occurrence. An empty one is no call. -/
def liftOccurrence (scenario : Scenario) (occurrence : Occurrence) (host : Host) :
    Option Fragment × Host :=
  match occurrence.range? with
  | none => (none, host)
  | some (first, last) =>
      (scenario.liftBetween? first last,
        host.record (.liftOccurrence first last occurrence.length))

/-- Lifts a block. -/
def liftBlock (scenario : Scenario) (block : Block) (host : Host) : Option Fragment × Host :=
  (scenario.liftAt? block.start, host.record (.liftBlock block.start block.length))

/-- The collaborators of a scenario. -/
def backend (scenario : Scenario) : Backend Host where
  defaultSnapshot := scenario.snapshotAt
  defaultStackPointer := scenario.stackPointer
  run := scenario.run
  liftOccurrence := scenario.liftOccurrence
  liftBlock := scenario.liftBlock
  decoder := scenario.decoder
  branchTargets fragment := ((scenario.branch? fragment).map Branch.targets).getD []
  exitCall? fragment := (scenario.branch? fragment).bind Branch.exitCall
  isKnownEntry address := scenario.known.contains address

end Scenario

end VmRecovery.Simulation

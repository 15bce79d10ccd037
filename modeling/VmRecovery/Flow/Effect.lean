import VmRecovery.Entry.Probe
import VmRecovery.Flow.Recovery

/-!
# The effect of a recovered instruction

An instruction is appended to the block of its job and acts on the walk: an entry and a branch
queue the jobs that continue behind them, a pop selects the register pair, an exit links native
code or queues the re-entry behind a call. A two-way branch is followed both ways by forcing
each target onto the VM stack before the branch handler runs.
-/

namespace VmRecovery.Flow

open Machine Trace

/-- A running job. -/
structure Walk where
  /-- The snapshot that the trace started from; continuations are replayed from here. -/
  snapshot : Snapshot
  /-- The block that the first block of the job continues. -/
  source : Option Position
  walker : Walker
  /-- The block that the job appends to. -/
  block : Option Position := none
  phase : Phase

namespace RecoveryM

variable {σ : Type}

/-- Queues the continuation right behind the current occurrence. -/
def continueBehind (backend : Backend σ) (walk : Walk) (block : Position) : RecoveryM σ Unit := do
  let next ← replay backend walk.snapshot walk.walker.reached
  resume next block

/-- Selects the pair that a handler reveals, unless another one is selected. -/
def reveal (pair : RegisterPair) : RecoveryM σ Unit := do
  match (← get).selection.adopt pair with
  | .ok selection => setSelection selection
  | .error fault => note (.selectionKept fault)

/-- Follows one way of a two-way branch: the target replaces the branch selector in the state
before the branch handler, which then runs once more. -/
def fork (backend : Backend σ) (before : Snapshot) (length : Nat) (stack : String)
    (block : Position) (target : UInt64) : RecoveryM σ Unit := do
  match before.forceSlot stack target with
  | none => note (.branchNotSteered stack)
  | some steered =>
      note (.branchForked block target)
      let next ← replay backend steered length
      resume next block

/-- Follows a branch. The register pair holds until the next branch only. -/
def executeJmp (backend : Backend σ) (walk : Walk) (occurrence : Occurrence) (block : Position) :
    RecoveryM σ Unit := do
  let fragment ← liftBlockAt backend block
  match backend.branchTargets fragment with
  | [_] => continueBehind backend walk block
  | [first, second] =>
      match (← get).selection.stack? with
      | none => note (.stackUnknown block)
      | some stack =>
          let before ← replay backend walk.snapshot walk.walker.cursor
          fork backend before occurrence.length stack block first
          fork backend before occurrence.length stack block second
  | targets => note (.branchUnresolved block targets.length)
  setSelection .none

/-- Whether the native code behind an exit comes back into virtualized code, and where. -/
def reentryPoint? (backend : Backend σ) (settings : Settings) (fragment : Ir.Fragment) :
    RecoveryM σ (Option UInt64) := do
  match backend.exitCall? fragment with
  | none => return none
  | some address =>
      let enters ← inSession (SessionM.probeEntry backend address settings.probeStepBudget)
      return if enters then some address else none

/-- Follows an exit to a known target. -/
def leaveFor (backend : Backend σ) (settings : Settings) (fragment : Ir.Fragment)
    (block exit : Position) (target : UInt64) : RecoveryM σ Unit := do
  match ← reentryPoint? backend settings fragment with
  | some reentry =>
      tryGraph fun graph =>
        graph.appendInstruction block { position := exit, size := 0, operation := .exitCall target }
      note (.exitThroughCall target reentry)
      enqueue (.entering reentry (some block))
  | none =>
      if !backend.isKnownEntry target then
        let _ ← changeGraph fun graph =>
          graph.link { source := block, target := .ofNative target, kind := .native }

/-- Follows an exit. -/
def executeExit (backend : Backend σ) (settings : Settings) (block exit : Position) :
    RecoveryM σ Unit := do
  let fragment ← liftBlockAt backend block
  match backend.branchTargets fragment with
  | [target] =>
      if target != 0 then leaveFor backend settings fragment block exit target
  | targets => note (.exitUnresolved block targets.length)

/-- The block that an instruction belongs to. The first instruction of a job opens the block,
unless its position has been claimed before. -/
def openBlock (walk : Walk) (position : Position) : RecoveryM σ (Option Position) := do
  match walk.block with
  | some block => return some block
  | none =>
      if let some source := walk.source then
        let _ ← changeGraph fun graph =>
          graph.link { source, target := position, kind := .flow }
      if ← changeGraph fun graph => graph.claim position then
        tryGraph fun graph => graph.createBlock position
        return some position
      else
        note (.alreadyVisited position)
        return none

/-- What an operation does to the recovery. -/
def applyEffect (backend : Backend σ) (settings : Settings) (walk : Walk)
    (occurrence : Occurrence) (block : Position) (instruction : Instruction) :
    RecoveryM σ Unit := do
  match instruction.operation with
  | .init _ => continueBehind backend walk block
  | .popReg _ pair => reveal pair
  | .jmp => executeJmp backend walk occurrence block
  | .jmpConst => continueBehind backend walk block
  | .exit _ => executeExit backend settings block instruction.position
  | _ => return ()

/-- Whether a job ends with an operation. -/
def endsJob (operation : Operation) : Bool :=
  match operation with
  | .init _ => true
  | operation => operation.isTerminal

/-- Appends an instruction to the block of a job and applies its effect. -/
def execute (backend : Backend σ) (settings : Settings) (walk : Walk) (occurrence : Occurrence)
    (instruction : Instruction) : RecoveryM σ Walk := do
  match ← openBlock walk instruction.position with
  | none => return { walk with phase := .finished }
  | some block =>
      note (.recovered instruction)
      tryGraph fun graph => graph.appendInstruction block instruction
      applyEffect backend settings walk occurrence block instruction
      let phase := if endsJob instruction.operation then .finished else walk.phase
      return { walk with block := some block, phase }

end RecoveryM

end VmRecovery.Flow

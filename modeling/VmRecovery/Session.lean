import VmRecovery.Flow.Block
import VmRecovery.Ir.Fragment
import VmRecovery.Native.Decoder
import VmRecovery.Notice
import VmRecovery.Trace.Occurrence

/-!
# Collaborators

A recovery drives an execution engine, a lifter, a decoder, an analysis of branches and a
register of known entries, none of which is implemented here. `Backend` bundles them over a
state of their own, and `SessionM` is what calling them looks like: the state is threaded
through, notices are collected, and a call may fail.
-/

namespace VmRecovery

open VmRecovery.Flow Ir Machine Native Trace

/-- The collaborators of a recovery; `σ` is the state they keep between calls. -/
structure Backend (σ : Type) where
  /-- The snapshot that a fresh execution from a native address starts with. -/
  defaultSnapshot : UInt64 → Snapshot
  /-- The native stack pointer of a fresh execution. -/
  defaultStackPointer : UInt64
  /-- Executes at most the given number of instructions. -/
  run : Snapshot → Nat → σ → Except Fault Run × σ
  /-- Lifts a handler occurrence. -/
  liftOccurrence : Occurrence → σ → Option Fragment × σ
  /-- Lifts the native code behind a recovered block. -/
  liftBlock : Block → σ → Option Fragment × σ
  decoder : Decoder
  /-- The addresses that a lifted block may go on at. -/
  branchTargets : Fragment → List UInt64
  /-- The address at which a lifted block is called back after it has left through a call. -/
  exitCall? : Fragment → Option UInt64
  /-- Whether an address is known to enter virtualized code. -/
  isKnownEntry : UInt64 → Bool

/-- The collaborators are opaque: their text tells nothing about them. -/
def Backend.text {σ : Type} (_ : Backend σ) : String :=
  "Backend \x7b .. \x7d"

/-- The state of the collaborators and the notices so far. -/
structure Session (σ : Type) where
  host : σ
  notices : Array Notice := #[]

/-- A computation that calls the collaborators. -/
abbrev SessionM (σ : Type) := ExceptT Fault (StateM (Session σ))

namespace SessionM

variable {σ : Type}

/-- Adds notices. -/
def noteAll (notices : List Notice) : SessionM σ Unit :=
  modify fun session => { session with notices := session.notices ++ notices }

/-- Adds one notice. -/
def note (notice : Notice) : SessionM σ Unit :=
  noteAll [notice]

/-- Reports the look-ups that found no instruction. -/
def noteLookups (decoder : Decoder) (lookups : List UInt64) : SessionM σ Unit :=
  noteAll ((decoder.invalidAmong lookups).map .invalidInstruction)

/-- Calls a collaborator. -/
def call {α : Type} (operation : σ → α × σ) : SessionM σ α :=
  modifyGet fun session =>
    let (answer, host) := operation session.host
    (answer, { session with host })

/-- Executes at most the given number of instructions. -/
def execute (backend : Backend σ) (snapshot : Snapshot) (budget : Nat) : SessionM σ Run := do
  match ← call (backend.run snapshot budget) with
  | .ok run => return run
  | .error fault => throw fault

/-- Lifts a handler occurrence that starts at an address. It is a fault if there is no lift. -/
def lift (backend : Backend σ) (occurrence : Occurrence) (start : UInt64) :
    SessionM σ Fragment := do
  match ← call (backend.liftOccurrence occurrence) with
  | some fragment => return fragment
  | none => throw (.liftFailed start)

/-- Lifts a block. It is a fault if there is no lift. -/
def liftBlock (backend : Backend σ) (block : Block) : SessionM σ Fragment := do
  match ← call (backend.liftBlock block) with
  | some fragment => return fragment
  | none => throw (.liftFailed block.start.native)

end SessionM

end VmRecovery

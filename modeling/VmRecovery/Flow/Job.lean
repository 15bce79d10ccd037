import VmRecovery.Machine.Snapshot
import VmRecovery.Position

/-!
# Jobs

A job walks a single trace, either from native code that is expected to enter the virtual
machine, or from a snapshot right behind a VM branch.
-/

namespace VmRecovery.Flow

open Machine

/-- Why a job was queued. -/
inductive JobKind where
  /-- The trace starts in native code; the entry routine has to be found first. -/
  | entry
  /-- The trace starts at a handler. -/
  | continuation
  deriving DecidableEq, Repr, Inhabited

/-- What a running job does next. -/
inductive Phase where
  /-- Looking for the entry routine. -/
  | seekingEntry
  /-- Reading one handler after the other. -/
  | readingHandlers
  | finished
  /-- A handler was not recognised, and that counts as a failure. -/
  | unclassified (position : Position)
  deriving DecidableEq, Repr, Inhabited

namespace JobKind

/-- The name under which a kind of job is reported and stored. -/
def name : JobKind → String
  | entry => "Entry"
  | continuation => "JmpContinuation"

/-- What a job starts with. -/
def initialPhase : JobKind → Phase
  | entry => .seekingEntry
  | continuation => .readingHandlers

end JobKind

/-- The name of a phase. -/
def Phase.name : Phase → String
  | seekingEntry => "FindVmInit"
  | readingHandlers => "FinishVmInit"
  | finished => "FinishMatch"
  | unclassified _ => "MatchError"

/-- A unit of work. -/
structure Job where
  kind : JobKind
  /-- The native address that the trace starts at. -/
  start : UInt64
  /-- The snapshot to resume from; without one the engine starts afresh. -/
  snapshot : Option Snapshot
  /-- The block that the first block of the job continues. -/
  source : Option Position
  deriving Inhabited

namespace Job

/-- A job that enters the virtual machine at a native address. -/
def entering (start : UInt64) (source : Option Position) : Job :=
  { kind := .entry, start, snapshot := none, source }

/-- A job that resumes behind the terminator of a block. -/
def resuming (snapshot : Snapshot) (source : Position) : Job :=
  { kind := .continuation
    start := snapshot.instructionPointer
    snapshot := some snapshot
    source := some source }

/-- The form in which a job is reported. -/
def text (job : Job) : String :=
  job.kind.name ++ "@" ++ hex job.start ++
    job.source.elim "" fun source => " from " ++ source.text

end Job

end VmRecovery.Flow

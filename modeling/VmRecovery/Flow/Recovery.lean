import VmRecovery.Cache
import VmRecovery.Flow.Report
import VmRecovery.Session
import VmRecovery.Settings
import VmRecovery.Trace.Walk

/-!
# The state of a recovery

A recovery owns the graph it grows, the control flow it has observed, the patterns it knows,
the selected register pair and the queue of jobs. Every change of the graph is reported as it
is entered in the graph's log.
-/

namespace VmRecovery.Flow

open Machine Trace

/-- The state of a recovery; `σ` is the state of its collaborators. -/
structure Recovery (σ : Type) where
  session : Session σ
  graph : Graph := {}
  grouping : Grouping := {}
  cache : Cache := {}
  selection : Selection := .none
  queue : List Job := []
  /-- Native address of the save area of the entry found last. -/
  saveArea : UInt64 := 0
  report : Report := {}

/-- A fresh recovery. -/
def Recovery.initial {σ : Type} (host : σ) (cache : Cache) : Recovery σ :=
  { session := { host }, cache }

/-- A step of a recovery. What it has changed by the time it fails stays changed. -/
abbrev RecoveryM (σ : Type) := ExceptT Fault (StateM (Recovery σ))

namespace RecoveryM

variable {σ : Type}

/-- Calls collaborators. -/
def inSession {α : Type} (action : SessionM σ α) : RecoveryM σ α :=
  ExceptT.mk fun state =>
    let (answer, session) := action state.session
    (answer, { state with session })

/-- Reports a notice. -/
def note (notice : Notice) : RecoveryM σ Unit :=
  inSession (SessionM.note notice)

/-- Replaces the graph and reports what its log gained. -/
def setGraph (graph : Graph) : RecoveryM σ Unit := do
  let gained := graph.log.drop (← get).graph.log.length
  modify fun state => { state with graph }
  inSession (SessionM.noteAll (gained.map fun entry => .changed entry.change))

/-- Changes the graph. -/
def changeGraph {α : Type} (change : Graph → α × Graph) : RecoveryM σ α := do
  let (answer, graph) := change (← get).graph
  setGraph graph
  return answer

/-- Makes a change of the graph that is not always possible. -/
def tryGraph (change : Graph → Except Fault Graph) : RecoveryM σ Unit := do
  match change (← get).graph with
  | .ok graph => setGraph graph
  | .error fault => throw fault

/-- Changes the counters. -/
def count (change : Report → Report) : RecoveryM σ Unit :=
  modify fun state => { state with report := change state.report }

/-- Replaces the selected register pair. -/
def setSelection (selection : Selection) : RecoveryM σ Unit :=
  modify fun state => { state with selection }

/-- Puts a job at the end of the queue. -/
def enqueue (job : Job) : RecoveryM σ Unit :=
  modify fun state => { state with queue := state.queue ++ [job] }

/-- The state after so many instructions from a snapshot. -/
def replay (backend : Backend σ) (snapshot : Snapshot) (steps : Nat) : RecoveryM σ Snapshot := do
  return (← inSession (SessionM.execute backend snapshot steps)).final

/-- Queues a job that resumes behind the terminator of a block. -/
def resume (snapshot : Snapshot) (source : Position) : RecoveryM σ Unit := do
  let job := Job.resuming snapshot source
  note (.jobQueued job)
  enqueue job

/-- Lifts the native code behind a block. -/
def liftBlockAt (backend : Backend σ) (start : Position) : RecoveryM σ Ir.Fragment := do
  match (← get).graph.block? start with
  | none => throw (.blockMissing start)
  | some block => inSession (SessionM.liftBlock backend block)

/-- Starts a walk whose trace counts for the groups of the recovery. -/
def startWalk (backend : Backend σ) (snapshot : Snapshot) (budget : Nat) :
    RecoveryM σ Walker := do
  let (walker, grouping) ←
    inSession (SessionM.startWalk backend (← get).grouping snapshot budget)
  modify fun state => { state with grouping }
  return walker

end RecoveryM

end VmRecovery.Flow

import VmRecovery.Entry.KeyPush
import VmRecovery.Flow.Effect
import VmRecovery.Handler.Classify
import VmRecovery.Handler.Reading

/-!
# Running jobs

A job first looks for the entry routine, unless it resumes inside the virtual machine, and then
reads one handler after the other until an instruction ends it. Every step of a job moves on in
its trace, so a job takes at most one step more than its trace has. Jobs run one after the
other in the order in which they were queued.
-/

namespace VmRecovery.Flow

open Handler Ir Native Trace

namespace RecoveryM

variable {σ : Type}

/-- The occurrence at the cursor of a job. It is a fault if there is none. -/
def nextOccurrence (walk : Walk) : RecoveryM σ (Occurrence × Walk) := do
  if walk.walker.atEnd then throw (.traceExhausted walk.walker.length)
  let (occurrence, walker) := walk.walker.look (← get).grouping
  if occurrence.isEmpty then throw (.emptyOccurrence walker.cursor)
  return (occurrence, { walk with walker })

/-- Joins a key push with the occurrence behind it. -/
def joinKeyPush (backend : Backend σ) (occurrence : Occurrence) (walk : Walk) :
    RecoveryM σ (Occurrence × Walk) := do
  inSession (SessionM.noteLookups backend.decoder (occurrence.keyPushLookups backend.decoder))
  if occurrence.isKeyPush backend.decoder then
    let (following, walker) := walk.walker.advance.look (← get).grouping
    return (occurrence ++ following, { walk with walker })
  else return (occurrence, walk)

/-- The instruction that an entry is recorded as. -/
def entryInstruction (start : UInt64) (entry : Entry) : Instruction :=
  { position := { native := start, vm := start }, size := 0, operation := .init entry.saved }

/-- Looks at one occurrence for the entry routine. -/
def seekEntry (backend : Backend σ) (settings : Settings) (walk : Walk) : RecoveryM σ Walk := do
  let (occurrence, walk) ← nextOccurrence walk
  let (occurrence, walk) ← joinKeyPush backend occurrence walk
  match occurrence.start? with
  | none => throw (.emptyOccurrence walk.walker.cursor)
  | some start =>
      let fragment ← inSession (SessionM.lift backend occurrence start)
      match fragment.entry? backend.defaultStackPointer with
      | none =>
          note (.notAnEntry start)
          return { walk with walker := walk.walker.advance }
      | some entry =>
          modify fun state => { state with saveArea := entry.saveArea }
          note (.entryFound start entry.saveArea)
          let walk ← execute backend settings walk occurrence (entryInstruction start entry)
          return { walk with walker := walk.walker.advance }

/-- The pattern that the cache holds for a range. -/
def cached? (range : HandlerRange) : RecoveryM σ (Option Pattern) :=
  modifyGet fun state =>
    let (pattern, cache) := state.cache.lookup range
    (pattern, { state with cache })

/-- Recognises a handler by its lifted dataflow. A pattern is stored unless there is one for
its range already. -/
def recognise (backend : Backend σ) (occurrence : Occurrence) (range : HandlerRange)
    (isCached : Bool) : RecoveryM σ Verdict := do
  let fragment ← inSession (SessionM.lift backend occurrence range.first)
  let site : Site := { fragment, selection := (← get).selection }
  let verdict ← inSession (SessionM.classify backend.decoder site)
  match verdict with
  | .handler pattern =>
      if !isCached then
        modify fun state => { state with cache := state.cache.insert range pattern }
      return verdict
  | _ => return verdict

/-- What the handler of an occurrence turns out to be. A cached pattern is taken if it fits the
selected registers. -/
def verdictOf (backend : Backend σ) (occurrence : Occurrence) (range : HandlerRange) :
    RecoveryM σ Verdict := do
  match ← cached? range with
  | none => recognise backend occurrence range false
  | some pattern =>
      if pattern.fits (← get).selection then
        note (.cacheHit range.first pattern.name)
        return .handler pattern
      else
        note (.cacheConflict range.first pattern.name)
        recognise backend occurrence range true

/-- Performs a recognised handler, unless the occurrence lacks what its operand is read from. -/
def perform (backend : Backend σ) (settings : Settings) (walk : Walk) (occurrence : Occurrence)
    (start : UInt64) (pattern : Pattern) : RecoveryM σ Walk := do
  let state ← get
  inSession
    (SessionM.noteLookups backend.decoder (pattern.lookups occurrence state.selection))
  match pattern.instruction? occurrence state.selection backend.decoder state.saveArea with
  | some instruction => execute backend settings walk occurrence instruction
  | none =>
      note (.anchorMissing start pattern.name)
      return walk

/-- Records an unrecognised handler. -/
def recordUnknown (backend : Backend σ) (settings : Settings) (walk : Walk)
    (occurrence : Occurrence) : RecoveryM σ Walk := do
  let position := occurrence.position (← get).selection.code?
  count fun report => { report with unknownHandlers := report.unknownHandlers + 1 }
  note (.unknownHandler position occurrence.length)
  let walk ← execute backend settings walk occurrence { position, size := 0, operation := .unknown }
  return if settings.diagnostic then { walk with phase := .unclassified position } else walk

/-- Reads one handler occurrence. -/
def readHandler (backend : Backend σ) (settings : Settings) (walk : Walk) : RecoveryM σ Walk := do
  let (occurrence, walk) ← nextOccurrence walk
  match occurrence.range? with
  | none => return walk
  | some (first, last) =>
      match ← verdictOf backend occurrence { first, last } with
      | .handler pattern => perform backend settings walk occurrence first pattern
      | .stackGuard =>
          note (.noEffect first)
          return walk
      | .junk =>
          note (.noEffect first)
          return walk
      | .unknown => recordUnknown backend settings walk occurrence

/-- Runs a job to its end in at most so many steps. -/
def drive (backend : Backend σ) (settings : Settings) : Nat → Walk → RecoveryM σ Unit
  | 0, walk => throw (.traceExhausted walk.walker.length)
  | steps + 1, walk => do
      match walk.phase with
      | .seekingEntry => drive backend settings steps (← seekEntry backend settings walk)
      | .readingHandlers =>
          let walk ← readHandler backend settings walk
          drive backend settings steps { walk with walker := walk.walker.advance }
      | .finished => return ()
      | .unclassified position => throw (.unclassified position)

/-- The number of engine steps that a kind of job records. -/
def stepBudget (settings : Settings) : JobKind → Nat
  | .entry => settings.entryStepBudget
  | .continuation => settings.continuationStepBudget

/-- Runs a job. -/
def runJob (backend : Backend σ) (settings : Settings) (job : Job) : RecoveryM σ Unit := do
  setSelection .none
  let snapshot := job.snapshot.getD (backend.defaultSnapshot job.start)
  let walker ← startWalk backend snapshot (stepBudget settings job.kind)
  drive backend settings (walker.length + 1)
    { snapshot, source := job.source, walker, phase := job.kind.initialPhase }

/-- Runs a job and counts how it ended. A fault that concerns more than the job is passed on. -/
def runCounted (backend : Backend σ) (settings : Settings) (job : Job) : RecoveryM σ Unit := do
  count fun report => { report with tasksRun := report.tasksRun + 1 }
  note (.jobStarted job (← get).queue.length)
  match ← ExceptT.lift (ExceptT.run (runJob backend settings job)) with
  | .ok () =>
      count fun report => { report with tasksFinished := report.tasksFinished + 1 }
      note .jobFinished
  | .error fault =>
      if fault.isFatal then throw fault
      count fun report => { report with tasksFailed := report.tasksFailed + 1 }
      note (.jobFailed fault)

/-- Runs queued jobs, at most so many. -/
def drain (backend : Backend σ) (settings : Settings) : Nat → RecoveryM σ Unit
  | 0 => do
      let pending := (← get).queue.length
      if pending ≠ 0 then note (.limitReached settings.maxTasks pending)
  | jobs + 1 => do
      match (← get).queue with
      | [] => return ()
      | job :: queue =>
          modify fun state => { state with queue }
          runCounted backend settings job
          drain backend settings jobs

/-- Completes the counters at the end of a run and reports the totals. -/
def finish : RecoveryM σ Report := do
  let state ← get
  let counts := state.graph.changeCounts
  count fun report =>
    { report with
      tasksPending := state.queue.length
      revisitedBlocks := counts.skipped
      cacheHits := state.cache.hits
      cacheMisses := state.cache.misses }
  let report := (← get).report
  note
    (.completed
      { blocks := counts.created
        edges := counts.linked
        revisited := counts.skipped
        tasks := report.tasksRun
        failed := report.tasksFailed
        unknown := report.unknownHandlers })
  return report

/-- Recovers the code that is reachable from a native address, as far as the limit of jobs
allows. -/
def recoverFrom (backend : Backend σ) (settings : Settings) (entry : UInt64) :
    RecoveryM σ Report := do
  enqueue (.entering entry none)
  drain backend settings (settings.maxTasks - (← get).report.tasksRun)
  finish

end RecoveryM

/-- Recovers the code that is reachable from a native address, with no patterns known before.
The settings have to be usable. -/
def recover {σ : Type} (backend : Backend σ) (settings : Settings) (host : σ) (entry : UInt64) :
    Except Fault Report × Recovery σ :=
  match settings.validate with
  | .error fault => (.error fault, .initial host {})
  | .ok () => (RecoveryM.recoverFrom backend settings entry).run (.initial host {})

end VmRecovery.Flow

import VmRecovery.Proofs.Flow.Turn

/-!
# What a turn comes to

A turn first finds out what its occurrence does, which touches neither the graph nor the queue,
and then records the instruction that it has found. `turn_eq` takes a turn apart into
`inspect`, `record` and the effect of the instruction, and `inspect_ends` states where in the
trace an instruction is found and which state it was read in.
-/

namespace VmRecovery.Flow

open Handler Machine Trace

/-- What a job comes to in a turn: an occurrence and the instruction that it performs. -/
structure Find where
  occurrence : Occurrence
  instruction : Instruction
  /-- The pattern that the instruction was read by. There is none for an entry routine or an
  unrecognised handler. -/
  pattern? : Option Pattern := none

namespace RecoveryM

variable {σ : Type}

/-- Finds out whether the next occurrence is the entry routine. -/
def inspectEntry (backend : Backend σ) (walk : Walk) : RecoveryM σ (Walk × Option Find) := do
  let (occurrence, walk) ← nextOccurrence walk
  let (occurrence, walk) ← joinKeyPush backend occurrence walk
  match occurrence.start? with
  | none => throw (.emptyOccurrence walk.walker.cursor)
  | some start =>
      let fragment ← inSession (SessionM.lift backend occurrence start)
      match fragment.entry? backend.defaultStackPointer with
      | none =>
          note (.notAnEntry start)
          return (walk, none)
      | some entry =>
          modify fun state => { state with saveArea := entry.saveArea }
          note (.entryFound start entry.saveArea)
          return (walk, some { occurrence, instruction := entryInstruction start entry })

/-- Reads an occurrence by a pattern, unless it lacks what its operand is read from. -/
def readBy (backend : Backend σ) (walk : Walk) (occurrence : Occurrence) (start : UInt64)
    (pattern : Pattern) : RecoveryM σ (Walk × Option Find) := do
  let state ← get
  inSession
    (SessionM.noteLookups backend.decoder (pattern.lookups occurrence state.selection))
  match pattern.instruction? occurrence state.selection backend.decoder state.saveArea with
  | some instruction => return (walk, some { occurrence, instruction, pattern? := some pattern })
  | none =>
      note (.anchorMissing start pattern.name)
      return (walk, none)

/-- Counts an unrecognised handler. -/
def readUnknown (walk : Walk) (occurrence : Occurrence) : RecoveryM σ (Walk × Option Find) := do
  let position := occurrence.position (← get).selection.code?
  count fun report => { report with unknownHandlers := report.unknownHandlers + 1 }
  note (.unknownHandler position occurrence.length)
  return (walk, some { occurrence, instruction := { position, size := 0, operation := .unknown } })

/-- Finds out which handler the next occurrence is. -/
def inspectHandler (backend : Backend σ) (walk : Walk) : RecoveryM σ (Walk × Option Find) := do
  let (occurrence, walk) ← nextOccurrence walk
  match occurrence.range? with
  | none => return (walk, none)
  | some (first, last) =>
      match ← verdictOf backend occurrence { first, last } with
      | .handler pattern => readBy backend walk occurrence first pattern
      | .stackGuard =>
          note (.noEffect first)
          return (walk, none)
      | .junk =>
          note (.noEffect first)
          return (walk, none)
      | .unknown => readUnknown walk occurrence

/-- Finds out what the next occurrence of a job does. A job that has come to its end finds
nothing. -/
def inspect (backend : Backend σ) (walk : Walk) : RecoveryM σ (Walk × Option Find) := do
  match walk.phase with
  | .seekingEntry => inspectEntry backend walk
  | .readingHandlers => inspectHandler backend walk
  | .finished => return (walk, none)
  | .unclassified position => throw (.unclassified position)

/-- What a job does next once it has recorded an instruction, if it would otherwise be in a
phase. -/
def phaseAfter (settings : Settings) (phase : Phase) (instruction : Instruction) : Phase :=
  if settings.diagnostic && instruction.operation == .unknown then
    .unclassified instruction.position
  else if endsJob instruction.operation then .finished
  else phase

/-- Records what a job has found and applies its effect. -/
def enact (backend : Backend σ) (settings : Settings) (walk : Walk) (find : Find) :
    RecoveryM σ Walk := do
  match ← record walk find.instruction with
  | none => return { walk with phase := phaseAfter settings .finished find.instruction }
  | some block =>
      applyEffect backend settings walk find.occurrence block find.instruction
      return { walk with
        block := some block
        phase := phaseAfter settings walk.phase find.instruction }

/-- The operation of an instruction that is read by a pattern. -/
theorem operation?_of_instruction? {pattern : Pattern} {occurrence : Occurrence}
    {selection : Selection} {decoder : Native.Decoder} {saveArea : UInt64}
    {instruction : Instruction}
    (performed : pattern.instruction? occurrence selection decoder saveArea = some instruction) :
    ∃ operation, pattern.operation? occurrence decoder saveArea = some operation ∧
      instruction.operation = operation := by
  unfold Pattern.instruction? at performed
  split at performed
  · obtain ⟨operation, isOperation, rfl⟩ := Option.map_eq_some_iff.mp performed
    exact ⟨operation, isOperation, rfl⟩
  · cases performed

/-- A recognised instruction leaves the phase to its operation. -/
theorem phaseAfter_of_known {settings : Settings} {phase : Phase} {instruction : Instruction}
    (known : instruction.operation ≠ .unknown) :
    phaseAfter settings phase instruction =
      if endsJob instruction.operation then .finished else phase := by
  simp [phaseAfter, known]

/-- What a known instruction does to a job is what executing it does. -/
theorem enact_of_known (backend : Backend σ) (settings : Settings) (walk : Walk) {find : Find}
    (known : find.instruction.operation ≠ .unknown) :
    enact backend settings walk find =
      execute backend settings walk find.occurrence find.instruction := by
  rw [execute_eq, enact]
  refine bind_congr fun block? => ?_
  cases block? with
  | none => simp [phaseAfter_of_known known]
  | some block => simp [phaseAfter_of_known known]

/-- An unrecognised handler fails its job after it has been recorded, if that counts as a
failure. -/
theorem enact_unknown (backend : Backend σ) (settings : Settings) (walk : Walk)
    (occurrence : Occurrence) (position : Position) :
    let instruction : Instruction := { position, size := 0, operation := .unknown }
    enact backend settings walk { occurrence, instruction } = do
      let walk ← execute backend settings walk occurrence instruction
      return if settings.diagnostic then { walk with phase := .unclassified position }
        else walk := by
  intro instruction
  simp only [execute_eq, enact, bind_assoc]
  refine bind_congr fun block? => ?_
  cases failing : settings.diagnostic <;> cases block? <;>
    simp [phaseAfter, failing, instruction, endsJob, Operation.isTerminal]

/-- What becomes of a job once it knows what its occurrence does. -/
def afterInspection (backend : Backend σ) (settings : Settings) :
    Walk × Option Find → RecoveryM σ Walk
  | (walk, none) => pure { walk with walker := walk.walker.advance }
  | (walk, some find) => do
      let walk ← enact backend settings walk find
      return { walk with walker := walk.walker.advance }

theorem seekEntry_eq (backend : Backend σ) (settings : Settings) (walk : Walk) :
    seekEntry backend settings walk =
      inspectEntry backend walk >>= afterInspection backend settings := by
  simp only [seekEntry, inspectEntry, bind_assoc]
  refine bind_congr ?_
  rintro ⟨occurrence, looked⟩
  refine bind_congr ?_
  rintro ⟨joined, walk⟩
  cases joined.start? with
  | none => rfl
  | some start =>
      simp only [bind_assoc]
      refine bind_congr fun fragment => ?_
      cases fragment.entry? backend.defaultStackPointer with
      | none => simp [afterInspection]
      | some entry =>
          let find : Find := { occurrence := joined, instruction := entryInstruction start entry }
          have known : find.instruction.operation ≠ .unknown := by simp [find, entryInstruction]
          simp only [bind_assoc, pure_bind, afterInspection,
            ← enact_of_known backend settings walk known, find]

theorem perform_eq (backend : Backend σ) (settings : Settings) (walk : Walk)
    (occurrence : Occurrence) (start : UInt64) (pattern : Pattern) :
    (do
      let walk ← perform backend settings walk occurrence start pattern
      return { walk with walker := walk.walker.advance }) =
      readBy backend walk occurrence start pattern >>= afterInspection backend settings := by
  simp only [perform, readBy, bind_assoc]
  refine bind_congr fun state => bind_congr fun _ => ?_
  cases performed : pattern.instruction? occurrence state.selection backend.decoder
    state.saveArea with
  | none => simp [afterInspection]
  | some instruction =>
      let find : Find := { occurrence, instruction, pattern? := some pattern }
      have known : find.instruction.operation ≠ .unknown := by
        obtain ⟨operation, isOperation, same⟩ := operation?_of_instruction? performed
        exact same ▸ (Pattern.ne_of_operation? isOperation).2.2
      simp only [pure_bind, afterInspection, ← enact_of_known backend settings walk known, find]

theorem readHandler_eq (backend : Backend σ) (settings : Settings) (walk : Walk) :
    (do
      let walk ← readHandler backend settings walk
      return { walk with walker := walk.walker.advance }) =
      inspectHandler backend walk >>= afterInspection backend settings := by
  simp only [readHandler, inspectHandler, bind_assoc]
  refine bind_congr ?_
  rintro ⟨occurrence, walk⟩
  cases occurrence.range? with
  | none => rfl
  | some range =>
      simp only [bind_assoc]
      refine bind_congr fun verdict => ?_
      cases verdict with
      | handler pattern => exact perform_eq backend settings walk occurrence range.1 pattern
      | stackGuard => simp [afterInspection]
      | junk => simp [afterInspection]
      | unknown =>
          simp only [recordUnknown, readUnknown, bind_assoc, pure_bind, afterInspection,
            enact_unknown]

/-- A turn inspects an occurrence, records what it has found and moves on. -/
theorem turn_eq (backend : Backend σ) (settings : Settings) {walk : Walk}
    (unfinished : walk.phase ≠ .finished) :
    turn backend settings walk = inspect backend walk >>= afterInspection backend settings := by
  cases phase : walk.phase with
  | seekingEntry =>
      simp only [turn, inspect, phase]
      exact seekEntry_eq backend settings walk
  | readingHandlers =>
      simp only [turn, inspect, phase]
      exact readHandler_eq backend settings walk
  | finished => exact absurd phase unfinished
  | unclassified position =>
      simp only [turn, inspect, phase]
      rfl

end RecoveryM

end VmRecovery.Flow

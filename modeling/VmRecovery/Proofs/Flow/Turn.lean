import VmRecovery.Proofs.Flow.Step

/-!
# The turns of a job

A job is launched, takes turns until it is finished or fails, and is settled. Every turn that
succeeds moves on in the trace, which is why the number of turns that a job is given in advance
never ends it (`ends_drive`).
-/

namespace VmRecovery.Flow

open Machine Trace

/-! Edits leave most of a recovery alone. -/

theorem Edits.grouping_eq {σ : Type} {walk : Walk} {state after : Recovery σ}
    (edits : Edits walk state after) : after.grouping = state.grouping := by
  induction edits with
  | refl => rfl
  | tail _ edit inductionHypothesis => cases edit <;> exact inductionHypothesis

theorem Edits.tasksRun_eq {σ : Type} {walk : Walk} {state after : Recovery σ}
    (edits : Edits walk state after) : after.report.tasksRun = state.report.tasksRun := by
  induction edits with
  | refl => rfl
  | tail _ edit inductionHypothesis => cases edit <;> exact inductionHypothesis

namespace RecoveryM

variable {σ : Type} {backend : Backend σ} {settings : Settings}

/-- Starts a job. -/
def launch (backend : Backend σ) (settings : Settings) (job : Job) : RecoveryM σ Walk := do
  count fun report => { report with tasksRun := report.tasksRun + 1 }
  note (.jobStarted job (← get).queue.length)
  setSelection .none
  let snapshot := job.snapshot.getD (backend.defaultSnapshot job.start)
  let walker ← startWalk backend snapshot (stepBudget settings job.kind)
  return { snapshot, source := job.source, walker, phase := job.kind.initialPhase }

/-- Takes the next turn of a job. -/
def turn (backend : Backend σ) (settings : Settings) (walk : Walk) : RecoveryM σ Walk := do
  match walk.phase with
  | .seekingEntry => seekEntry backend settings walk
  | .readingHandlers =>
      let walk ← readHandler backend settings walk
      return { walk with walker := walk.walker.advance }
  | .finished => return walk
  | .unclassified position => throw (.unclassified position)

/-- Counts how a job ended. A fault that concerns more than the job is passed on. -/
def settle : Except Fault Unit → RecoveryM σ Unit
  | .ok () => do
      count fun report => { report with tasksFinished := report.tasksFinished + 1 }
      note .jobFinished
  | .error fault => do
      if fault.isFatal then throw fault
      count fun report => { report with tasksFailed := report.tasksFailed + 1 }
      note (.jobFailed fault)

theorem drive_finished (backend : Backend σ) (settings : Settings) (turns : Nat) {walk : Walk}
    (finished : walk.phase = .finished) : drive backend settings (turns + 1) walk = pure () := by
  rw [drive, finished]

/-- A job that is not finished takes its next turn. -/
theorem drive_succ (backend : Backend σ) (settings : Settings) (turns : Nat) {walk : Walk}
    (unfinished : walk.phase ≠ .finished) :
    drive backend settings (turns + 1) walk =
      turn backend settings walk >>= drive backend settings turns := by
  rw [drive, turn]
  cases phase : walk.phase with
  | seekingEntry => rfl
  | readingHandlers => simp
  | finished => exact absurd phase unfinished
  | unclassified position => rfl

/-- A job is launched, driven and settled. -/
theorem ends_runCounted {state : Recovery σ} {done : Unit → Recovery σ → Prop}
    {failed : Fault → Recovery σ → Prop} (backend : Backend σ) (settings : Settings) (job : Job) :
    Ends (runCounted backend settings job) state done failed ↔
      Ends (launch backend settings job) state
        (fun walk launched =>
          Ends (drive backend settings (walk.walker.length + 1) walk) launched
            (fun _ driven => Ends (settle (.ok ())) driven done failed)
            fun fault driven => Ends (settle (.error fault)) driven done failed)
        fun fault launched => Ends (settle (.error fault)) launched done failed := by
  simp only [runCounted, launch, runJob, settle, count, note, setSelection, SessionM.note,
    SessionM.noteAll, ends_bind, ends_attempt, ends_get, ends_modify, ends_inSession, ends_pure]

/-! What launching, a turn and settling change. -/

theorem launch_ends (backend : Backend σ) (settings : Settings) (job : Job) (state : Recovery σ) :
    Ends (launch backend settings job) state
      (fun walk after => ∃ steps session,
        after = { state with
          session
          selection := .none
          grouping := state.grouping.observe backend.decoder (steps.map Step.address)
          report := { state.report with tasksRun := state.report.tasksRun + 1 } } ∧
        walk =
          { snapshot := job.snapshot.getD (backend.defaultSnapshot job.start)
            source := job.source
            walker := .ofSteps steps
            phase := job.kind.initialPhase })
      fun _ after => ∃ session,
        after = { state with
          session
          selection := .none
          report := { state.report with tasksRun := state.report.tasksRun + 1 } } := by
  simp only [launch, count, note, setSelection, startWalk, SessionM.startWalk, SessionM.observe,
    SessionM.note, SessionM.noteLookups, SessionM.noteAll, ends_bind, ends_modify, ends_get,
    ends_inSession, ends_pure]
  exact .of_forall (fun run session => ⟨run.steps, _, rfl, rfl⟩) fun fault session => ⟨session, rfl⟩

/-- A turn makes edits only, and moves on if it succeeds. -/
theorem turn_ends (backend : Backend σ) (settings : Settings) (state : Recovery σ) {walk : Walk}
    (unfinished : walk.phase ≠ .finished) :
    Ends (turn backend settings walk) state
      (fun walk' after => Edits walk state after ∧ Continued walk walk' state.grouping)
      fun _ after => Edits walk state after := by
  unfold turn
  split
  · rename_i seeking
    exact seekEntry_ends backend settings state seeking
  · rename_i reading
    rw [ends_bind]
    refine (readHandler_ends backend settings state reading).imp ?_ fun _ _ edits => edits
    rintro walk' after ⟨edits, sameSource, handedOut, walker⟩
    refine ⟨edits, sameSource, handedOut, .inl ?_, fun seeking => ?_⟩
    · exact congrArg Walker.advance walker
    · exact absurd (reading.symm.trans seeking) (by simp)
  · rename_i finished
    exact absurd finished unfinished
  · exact .refl

/-- What every turn relates is related by all the turns of a job. -/
theorem drive_relates {relation : Recovery σ → Recovery σ → Prop}
    (refl : ∀ state, relation state state)
    (trans : ∀ {before middle after}, relation before middle → relation middle after →
      relation before after)
    (relates : ∀ walk, walk.phase ≠ .finished → Relates relation (turn backend settings walk))
    (turns : Nat) (walk : Walk) : Relates relation (drive backend settings turns walk) := by
  induction turns generalizing walk with
  | zero => exact refl
  | succ turns inductionHypothesis =>
      by_cases finished : walk.phase = .finished
      · rw [drive_finished backend settings turns finished]
        exact refl
      · rw [drive_succ backend settings turns finished]
        exact (relates walk finished).bind id trans inductionHypothesis

/-- A job that is settled is counted once. -/
theorem settle_ends (outcome : Except Fault Unit) (state : Recovery σ) :
    Ends (settle outcome) state
      (fun _ after => ∃ session finished failed,
        finished + failed = state.report.tasksFinished + state.report.tasksFailed + 1 ∧
        after = { state with
          session
          report := { state.report with tasksFinished := finished, tasksFailed := failed } })
      fun _ after => after = state := by
  cases outcome with
  | ok answer =>
      simp only [settle, count, note, SessionM.note, SessionM.noteAll, ends_bind, ends_modify,
        ends_inSession]
      exact ⟨_, state.report.tasksFinished + 1, _, Nat.add_right_comm _ _ _, rfl⟩
  | error fault =>
      simp only [settle]
      split
      · rfl
      · simp only [count, note, SessionM.note, SessionM.noteAll, ends_bind, ends_modify,
          ends_inSession]
        exact ⟨_, _, state.report.tasksFailed + 1, rfl, rfl⟩

/-- A turn leaves less of the trace. -/
theorem Continued.length_lt {walk walk' : Walk} {grouping : Grouping}
    (continued : Continued walk walk' grouping) :
    walk'.walker.remaining.length < walk.walker.remaining.length := by
  have shorter : ∀ walker : Walker,
      (walker.current grouping).steps.length + (walker.past grouping).remaining.length =
        walker.remaining.length := fun walker => by
    rw [← List.length_append, walker.steps_append_remaining_past]
  have first := shorter walk.walker
  have second := shorter (walk.walker.past grouping)
  have handedOut := List.length_pos_of_ne_nil continued.handedOut
  rcases continued.moved with moved | moved
  · rw [moved]
    omega
  · rw [moved]
    omega

end RecoveryM

end VmRecovery.Flow

import VmRecovery.Proofs.Flow.Turn

/-!
# The stages of recoveries

Recoveries are requested one after the other and share their state. `Advance` cuts them into the
launches, the turns and the settlements of their jobs, and `runs_recoverEach` states that every
sequence of recoveries passes through the stages so described. What holds at first and is kept
by every advance therefore holds at every moment of every run; `Advance.transition` tells what
an advance changes.
-/

namespace VmRecovery.Flow

open Machine Trace

/-- What goes on in a run. -/
inductive Activity where
  /-- The last recovery has ended. -/
  | waiting
  /-- A recovery is under way and none of its jobs is running. -/
  | scheduling
  | running (job : Job) (walk : Walk)

/-- A moment in a run. -/
structure Stage (σ : Type) where
  activity : Activity
  /-- The native addresses that recoveries will still be requested for. -/
  entries : List UInt64
  state : Recovery σ

namespace RecoveryM

variable {σ : Type}

/-- Ends a recovery. -/
def conclude (backend : Backend σ) (settings : Settings) : RecoveryM σ Report := do
  drain backend settings 0
  finish

end RecoveryM

open RecoveryM

variable {σ : Type}

/-- After a job has been settled, the recovery goes on unless the fault is passed on. -/
def Activity.settled : Except Fault Unit → Activity
  | .ok () => .scheduling
  | .error _ => .waiting

/-- No job is running after one has been settled. -/
theorem Activity.settled_ne_running (outcome : Except Fault Unit) (job : Job) (walk : Walk) :
    Activity.settled outcome ≠ .running job walk := by
  cases outcome <;> simp [Activity.settled]

/-- A run advances from one stage to the next. -/
inductive Advance (backend : Backend σ) (settings : Settings) : Stage σ → Stage σ → Prop where
  | requests {entry : UInt64} {entries : List UInt64} {state : Recovery σ} :
      Advance backend settings ⟨.waiting, entry :: entries, state⟩
        ⟨.scheduling, entries, { state with queue := state.queue ++ [.entering entry none] }⟩
  | launches {entries : List UInt64} {state after : Recovery σ} {job : Job} {queue : List Job}
      {walk : Walk} (queued : state.queue = job :: queue)
      (allowed : state.report.tasksRun < settings.maxTasks)
      (launched : (launch backend settings job).run.run { state with queue } = (.ok walk, after)) :
      Advance backend settings ⟨.scheduling, entries, state⟩ ⟨.running job walk, entries, after⟩
  /-- The engine does not run. -/
  | stumbles {entries : List UInt64} {state failed after : Recovery σ} {job : Job}
      {queue : List Job} {fault : Fault} {outcome : Except Fault Unit}
      (queued : state.queue = job :: queue)
      (allowed : state.report.tasksRun < settings.maxTasks)
      (launched : (launch backend settings job).run.run { state with queue } =
        (.error fault, failed))
      (settled : (settle (.error fault)).run.run failed = (outcome, after)) :
      Advance backend settings ⟨.scheduling, entries, state⟩ ⟨.settled outcome, entries, after⟩
  | turns {entries : List UInt64} {state after : Recovery σ} {job : Job} {walk walk' : Walk}
      (unfinished : walk.phase ≠ .finished)
      (turned : (turn backend settings walk).run.run state = (.ok walk', after)) :
      Advance backend settings ⟨.running job walk, entries, state⟩
        ⟨.running job walk', entries, after⟩
  | fails {entries : List UInt64} {state failed after : Recovery σ} {job : Job} {walk : Walk}
      {fault : Fault} {outcome : Except Fault Unit} (unfinished : walk.phase ≠ .finished)
      (turned : (turn backend settings walk).run.run state = (.error fault, failed))
      (settled : (settle (.error fault)).run.run failed = (outcome, after)) :
      Advance backend settings ⟨.running job walk, entries, state⟩
        ⟨.settled outcome, entries, after⟩
  | completes {entries : List UInt64} {state after : Recovery σ} {job : Job} {walk : Walk}
      {outcome : Except Fault Unit} (finished : walk.phase = .finished)
      (settled : (settle (.ok ())).run.run state = (outcome, after)) :
      Advance backend settings ⟨.running job walk, entries, state⟩
        ⟨.settled outcome, entries, after⟩
  /-- No job is left, or no further one is allowed. -/
  | concludes {entries : List UInt64} {state : Recovery σ}
      (exhausted : state.queue = [] ∨ settings.maxTasks ≤ state.report.tasksRun) :
      Advance backend settings ⟨.scheduling, entries, state⟩
        ⟨.waiting, entries, ((conclude backend settings).run.run state).2⟩

/-- The next stage of a run, unless all recoveries have ended. -/
def Stage.next? (backend : Backend σ) (settings : Settings) (stage : Stage σ) :
    Option (Stage σ) :=
  match stage.activity with
  | .waiting =>
      match stage.entries with
      | [] => none
      | entry :: entries =>
          some ⟨.scheduling, entries,
            { stage.state with queue := stage.state.queue ++ [.entering entry none] }⟩
  | .scheduling =>
      match stage.state.queue with
      | [] => some ⟨.waiting, stage.entries, ((conclude backend settings).run.run stage.state).2⟩
      | job :: queue =>
          if stage.state.report.tasksRun < settings.maxTasks then
            match (launch backend settings job).run.run { stage.state with queue } with
            | (.ok walk, after) => some ⟨.running job walk, stage.entries, after⟩
            | (.error fault, failed) =>
                let (outcome, after) := (settle (.error fault)).run.run failed
                some ⟨.settled outcome, stage.entries, after⟩
          else some ⟨.waiting, stage.entries, ((conclude backend settings).run.run stage.state).2⟩
  | .running job walk =>
      if walk.phase = .finished then
        let (outcome, after) := (settle (.ok ())).run.run stage.state
        some ⟨.settled outcome, stage.entries, after⟩
      else
        match (turn backend settings walk).run.run stage.state with
        | (.ok walk', after) => some ⟨.running job walk', stage.entries, after⟩
        | (.error fault, failed) =>
            let (outcome, after) := (settle (.error fault)).run.run failed
            some ⟨.settled outcome, stage.entries, after⟩

/-- The advances of a run are computed. -/
theorem advance_iff {backend : Backend σ} {settings : Settings} {stage next : Stage σ} :
    Advance backend settings stage next ↔ stage.next? backend settings = some next := by
  constructor
  · intro advance
    cases advance with
    | requests => rfl
    | launches queued allowed launched => simp [Stage.next?, queued, allowed, launched]
    | stumbles queued allowed launched settled =>
        simp [Stage.next?, queued, allowed, launched, settled]
    | turns unfinished turned => simp [Stage.next?, unfinished, turned]
    | fails unfinished turned settled => simp [Stage.next?, unfinished, turned, settled]
    | completes finished settled => simp [Stage.next?, finished, settled]
    | @concludes entries state exhausted =>
        cases queued : state.queue with
        | nil => simp [Stage.next?, queued]
        | cons job queue =>
            have denied : ¬ state.report.tasksRun < settings.maxTasks := by
              simpa [queued] using exhausted
            simp [Stage.next?, queued, denied]
  · obtain ⟨activity, entries, state⟩ := stage
    intro computed
    simp only [Stage.next?] at computed
    split at computed
    · split at computed
      · cases computed
      · obtain rfl := Option.some.inj computed
        exact .requests
    · split at computed
      · rename_i empty
        obtain rfl := Option.some.inj computed
        exact .concludes (.inl empty)
      · rename_i queued
        split at computed
        · rename_i allowed
          split at computed
          · rename_i launched
            obtain rfl := Option.some.inj computed
            exact .launches queued allowed launched
          · rename_i launched
            obtain rfl := Option.some.inj computed
            exact .stumbles queued allowed launched rfl
        · rename_i denied
          obtain rfl := Option.some.inj computed
          exact .concludes (.inr (Nat.not_lt.mp denied))
    · split at computed
      · rename_i finished
        obtain rfl := Option.some.inj computed
        exact .completes finished rfl
      · rename_i unfinished
        split at computed
        · rename_i turned
          obtain rfl := Option.some.inj computed
          exact .turns unfinished turned
        · rename_i turned
          obtain rfl := Option.some.inj computed
          exact .fails unfinished turned rfl

/-- A stage has at most one next stage, so the requests determine the run. -/
theorem Advance.deterministic {backend : Backend σ} {settings : Settings}
    {stage next next' : Stage σ} (advance : Advance backend settings stage next)
    (other : Advance backend settings stage next') : next = next' :=
  Option.some.inj ((advance_iff.mp advance).symm.trans (advance_iff.mp other))

/-- Any number of advances. -/
def Runs (backend : Backend σ) (settings : Settings) : Stage σ → Stage σ → Prop :=
  Relation.ReflTransGen (Advance backend settings)

/-- The stage after so many advances, or the last one of the run. -/
def Stage.after (backend : Backend σ) (settings : Settings) (stage : Stage σ) : Nat → Stage σ
  | 0 => stage
  | count + 1 =>
      ((stage.after backend settings count).next? backend settings).getD
        (stage.after backend settings count)

/-- The stage after any number of steps is a later one of the run. -/
theorem Stage.runs_after (backend : Backend σ) (settings : Settings) (stage : Stage σ)
    (count : Nat) : Runs backend settings stage (stage.after backend settings count) := by
  induction count with
  | zero => exact .refl
  | succ count inductionHypothesis =>
      rw [Stage.after]
      cases computed : (stage.after backend settings count).next? backend settings with
      | none => exact inductionHypothesis
      | some next => exact inductionHypothesis.tail (advance_iff.mpr computed)

/-- Unless the run has ended, one more advance leads to the stage after one more. -/
theorem Stage.advance_after {backend : Backend σ} {settings : Settings} {stage : Stage σ}
    {count : Nat}
    (unfinished : ((stage.after backend settings count).next? backend settings).isSome = true) :
    Advance backend settings (stage.after backend settings count)
      (stage.after backend settings (count + 1)) := by
  obtain ⟨next, computed⟩ := Option.isSome_iff_exists.mp unfinished
  rw [Stage.after, computed]
  exact advance_iff.mpr computed

/-- The state after recoveries from native addresses, one after the other. A recovery that is
given up does not keep the next one from being requested. -/
def recoverEach (backend : Backend σ) (settings : Settings) (entries : List UInt64)
    (state : Recovery σ) : Recovery σ :=
  entries.foldl
    (fun state entry => ((recoverFrom backend settings entry).run.run state).2) state

/-! What an advance changes. -/

/-- Nothing but notices and counters, and what the collaborators keep, has changed. -/
def Accounted (state after : Recovery σ) : Prop :=
  ∃ session report, after = { state with session, report }

/-- What an advance changes, with the effects of turns as edits. -/
inductive Transition (backend : Backend σ) : Stage σ → Stage σ → Prop where
  | requests {entry : UInt64} {entries : List UInt64} {state : Recovery σ} :
      Transition backend ⟨.waiting, entry :: entries, state⟩
        ⟨.scheduling, entries, { state with queue := state.queue ++ [.entering entry none] }⟩
  | launches {entries : List UInt64} {state : Recovery σ} {job : Job} {queue : List Job}
      {snapshot : Snapshot} {steps : List Step} {session : Session σ} {report : Report}
      (queued : state.queue = job :: queue) :
      Transition backend ⟨.scheduling, entries, state⟩
        ⟨.running job
            { snapshot, source := job.source, walker := .ofSteps steps,
              phase := job.kind.initialPhase },
          entries,
          { state with
            session, queue, report
            selection := .none
            grouping := state.grouping.observe backend.decoder (steps.map Step.address) }⟩
  | stumbles {entries : List UInt64} {state : Recovery σ} {job : Job} {queue : List Job}
      {session : Session σ} {report : Report} {outcome : Except Fault Unit}
      (queued : state.queue = job :: queue) :
      Transition backend ⟨.scheduling, entries, state⟩
        ⟨.settled outcome, entries, { state with session, queue, report, selection := .none }⟩
  | turns {entries : List UInt64} {state after : Recovery σ} {job : Job} {walk walk' : Walk}
      (unfinished : walk.phase ≠ .finished) (edits : Edits walk state after)
      (continued : Continued walk walk' state.grouping) :
      Transition backend ⟨.running job walk, entries, state⟩ ⟨.running job walk', entries, after⟩
  | fails {entries : List UInt64} {state failed after : Recovery σ} {job : Job} {walk : Walk}
      {outcome : Except Fault Unit} (unfinished : walk.phase ≠ .finished)
      (edits : Edits walk state failed) (accounted : Accounted failed after) :
      Transition backend ⟨.running job walk, entries, state⟩ ⟨.settled outcome, entries, after⟩
  | completes {entries : List UInt64} {state after : Recovery σ} {job : Job} {walk : Walk}
      {outcome : Except Fault Unit} (accounted : Accounted state after) :
      Transition backend ⟨.running job walk, entries, state⟩ ⟨.settled outcome, entries, after⟩
  | concludes {entries : List UInt64} {state after : Recovery σ}
      (accounted : Accounted state after) :
      Transition backend ⟨.scheduling, entries, state⟩ ⟨.waiting, entries, after⟩

/-- Settling a job notes and counts only. -/
theorem accounted_of_settled {outcome result : Except Fault Unit} {state after : Recovery σ}
    (settled : (settle result).run.run state = (outcome, after)) : Accounted state after := by
  have ends := settle_ends result state
  rw [Ends, settled] at ends
  cases outcome with
  | ok answer =>
      obtain ⟨session, finished, failed, -, rfl⟩ := ends
      exact ⟨session, _, rfl⟩
  | error fault =>
      obtain rfl := ends
      exact ⟨_, _, rfl⟩

/-- Concluding a recovery notes and counts only. -/
theorem accounted_conclude (backend : Backend σ) (settings : Settings) (state : Recovery σ) :
    Accounted state ((conclude backend settings).run.run state).2 := by
  refine ends_both.mp ?_
  simp only [conclude, drain, finish, count, note, SessionM.note, SessionM.noteAll, ends_bind,
    ends_modify, ends_inSession, ends_get, ends_pure]
  split
  · exact ⟨_, _, rfl⟩
  · exact ⟨_, _, rfl⟩

/-- A step of a run changes the stage in one of the ways listed. -/
theorem Advance.transition {backend : Backend σ} {settings : Settings} {stage stage' : Stage σ}
    (advance : Advance backend settings stage stage') : Transition backend stage stage' := by
  cases advance with
  | requests => exact .requests
  | launches queued allowed launched =>
      obtain ⟨steps, session, rfl, rfl⟩ := (launch_ends backend settings _ _).of_ok launched
      exact .launches queued
  | stumbles queued allowed launched settled =>
      obtain ⟨session, rfl⟩ := (launch_ends backend settings _ _).of_error launched
      obtain ⟨session, report, rfl⟩ := accounted_of_settled settled
      exact .stumbles queued
  | turns unfinished turned =>
      obtain ⟨edits, continued⟩ := (turn_ends backend settings _ unfinished).of_ok turned
      exact .turns unfinished edits continued
  | fails unfinished turned settled =>
      exact .fails unfinished ((turn_ends backend settings _ unfinished).of_error turned)
        (accounted_of_settled settled)
  | completes finished settled => exact .completes (accounted_of_settled settled)
  | concludes exhausted => exact .concludes (accounted_conclude backend settings _)

/-! Recoveries run through the stages. -/

section Adequacy

variable {backend : Backend σ} {settings : Settings} {entries : List UInt64} {stage : Stage σ}

/-- Whatever becomes of a job that ended in a state is a later stage of the run. -/
def Settles (backend : Backend σ) (settings : Settings) (entries : List UInt64) (stage : Stage σ)
    (outcome : Except Fault Unit) (ended : Recovery σ) : Prop :=
  ∀ result after, (settle outcome).run.run ended = (result, after) →
    Runs backend settings stage ⟨.settled result, entries, after⟩

/-- What becomes of a settled job is a later stage: the next job is due, or the recovery is given
up. -/
theorem Settles.ends {outcome : Except Fault Unit} {ended : Recovery σ}
    (settles : Settles backend settings entries stage outcome ended) :
    Ends (settle outcome) ended
      (fun _ after => after.report.tasksRun = ended.report.tasksRun ∧
        Runs backend settings stage ⟨.scheduling, entries, after⟩)
      fun _ after => Runs backend settings stage ⟨.waiting, entries, after⟩ := by
  have counted := settle_ends outcome ended
  unfold Ends at counted ⊢
  split
  · rename_i answer after settled
    rw [settled] at counted
    obtain ⟨session, finished, failed, -, rfl⟩ := counted
    exact ⟨rfl, settles _ _ settled⟩
  · rename_i fault after settled
    exact settles _ _ settled

/-- A job that is given more turns than its trace has steps left runs to its end. -/
theorem drive_settles (entries : List UInt64) (job : Job) (turns : Nat) :
    ∀ (walk : Walk) (state : Recovery σ), walk.walker.remaining.length < turns →
      Ends (drive backend settings turns walk) state
        (fun _ ended => ended.report.tasksRun = state.report.tasksRun ∧
          Settles backend settings entries ⟨.running job walk, entries, state⟩ (.ok ()) ended)
        fun fault ended => ended.report.tasksRun = state.report.tasksRun ∧
          Settles backend settings entries ⟨.running job walk, entries, state⟩ (.error fault)
            ended := by
  induction turns with
  | zero => exact fun _ _ impossible => absurd impossible (Nat.not_lt_zero _)
  | succ turns inductionHypothesis =>
      intro walk state enough
      by_cases finished : walk.phase = .finished
      · rw [drive_finished backend settings turns finished]
        exact ⟨rfl, fun _ _ settled => .single (.completes finished settled)⟩
      · rw [drive_succ backend settings turns finished, ends_bind]
        have changed := turn_ends backend settings state finished
        unfold Ends at changed ⊢
        split
        · rename_i walk' after turned
          rw [turned] at changed
          obtain ⟨edits, continued⟩ := changed
          have advance : Advance backend settings ⟨.running job walk, entries, state⟩
              ⟨.running job walk', entries, after⟩ := .turns finished turned
          -- The turn has used up a step at least, so that the turns still suffice.
          have fewer : walk'.walker.remaining.length < turns := by
            have shorter := continued.length_lt
            omega
          refine (inductionHypothesis walk' after fewer).imp ?_ ?_
          · rintro _ ended ⟨counted, settles⟩
            exact ⟨counted.trans edits.tasksRun_eq,
              fun _ _ settled => .head advance (settles _ _ settled)⟩
          · rintro _ ended ⟨counted, settles⟩
            exact ⟨counted.trans edits.tasksRun_eq,
              fun _ _ settled => .head advance (settles _ _ settled)⟩
        · rename_i fault ended turned
          rw [turned] at changed
          exact ⟨changed.tasksRun_eq, fun _ _ settled => .single (.fails finished turned settled)⟩

/-- A job that is taken from the queue runs through the stages from its launch until it is settled.
-/
theorem runCounted_runs (entries : List UInt64) {state : Recovery σ} {job : Job} {queue : List Job}
    (queued : state.queue = job :: queue) (allowed : state.report.tasksRun < settings.maxTasks) :
    Ends (runCounted backend settings job) { state with queue }
      (fun _ after => after.report.tasksRun = state.report.tasksRun + 1 ∧
        Runs backend settings ⟨.scheduling, entries, state⟩ ⟨.scheduling, entries, after⟩)
      fun _ after =>
        Runs backend settings ⟨.scheduling, entries, state⟩ ⟨.waiting, entries, after⟩ := by
  rw [ends_runCounted]
  have started := launch_ends backend settings job { state with queue }
  unfold Ends at started
  rw [Ends]
  split
  · rename_i walk after launched
    rw [launched] at started
    obtain ⟨steps, session, counted, opened⟩ := started
    have advance : Advance backend settings ⟨.scheduling, entries, state⟩
        ⟨.running job walk, entries, after⟩ := .launches queued allowed launched
    have enough : walk.walker.remaining.length < walk.walker.length + 1 := by
      rw [Walker.length]
      omega
    have one : after.report.tasksRun = state.report.tasksRun + 1 := by rw [counted]
    refine (drive_settles entries job _ walk after enough).imp ?_ ?_
    · rintro _ ended ⟨same, settles⟩
      refine settles.ends.imp ?_ fun _ _ further => .head advance further
      exact fun _ _ further => ⟨further.1.trans (same.trans one), .head advance further.2⟩
    · rintro _ ended ⟨same, settles⟩
      refine settles.ends.imp ?_ fun _ _ further => .head advance further
      exact fun _ _ further => ⟨further.1.trans (same.trans one), .head advance further.2⟩
  · rename_i fault failed launched
    rw [launched] at started
    obtain ⟨session, counted⟩ := started
    have settles : Settles backend settings entries ⟨.scheduling, entries, state⟩ (.error fault)
        failed := fun _ _ settled => .single (.stumbles queued allowed launched settled)
    refine settles.ends.imp ?_ fun _ _ further => further
    exact fun _ _ further => ⟨further.1.trans (by rw [counted]), further.2⟩

/-- A recovery without jobs has nothing to drain. -/
theorem ends_conclude_of_empty (backend : Backend σ) (settings : Settings) {state : Recovery σ}
    {done : Report → Recovery σ → Prop} {failed : Fault → Recovery σ → Prop}
    (empty : state.queue = []) :
    Ends (conclude backend settings) state done failed ↔ Ends finish state done failed := by
  simp [conclude, drain, empty]

/-- Draining the queue and reporting leads to the end of the recovery, whatever fails. -/
theorem drain_runs (entries : List UInt64) (jobs : Nat) :
    ∀ state : Recovery σ, jobs = settings.maxTasks - state.report.tasksRun →
      Ends (drain backend settings jobs >>= fun _ => finish) state
        (fun _ after =>
          Runs backend settings ⟨.scheduling, entries, state⟩ ⟨.waiting, entries, after⟩)
        fun _ after =>
          Runs backend settings ⟨.scheduling, entries, state⟩ ⟨.waiting, entries, after⟩ := by
  induction jobs with
  | zero =>
      intro state none
      rw [ends_both]
      exact .single (.concludes (.inr (Nat.le_of_sub_eq_zero none.symm)))
  | succ jobs inductionHypothesis =>
      intro state left
      rw [ends_bind, drain, ends_bind, ends_get]
      split
      · rename_i empty
        rw [ends_pure, ← ends_conclude_of_empty backend settings empty, ends_both]
        exact .single (.concludes (.inl empty))
      · rename_i job queue queued
        rw [ends_bind, ends_modify, ends_bind]
        refine (runCounted_runs entries queued (by omega)).imp ?_ fun _ _ further => further
        rintro _ after ⟨counted, further⟩
        have drained := inductionHypothesis after (by omega)
        rw [ends_bind] at drained
        refine drained.imp ?_ fun _ _ rest => further.trans rest
        exact fun _ _ ends => ends.imp (fun _ _ rest => further.trans rest)
          fun _ _ rest => further.trans rest

/-- A recovery runs from its request to its end. -/
theorem runs_recoverFrom (entry : UInt64) (state : Recovery σ) :
    Runs backend settings ⟨.waiting, entry :: entries, state⟩
      ⟨.waiting, entries, ((recoverFrom backend settings entry).run.run state).2⟩ := by
  let Ended (after : Recovery σ) : Prop :=
    Runs backend settings ⟨.waiting, entry :: entries, state⟩ ⟨.waiting, entries, after⟩
  have ends : Ends (recoverFrom backend settings entry) state (fun _ => Ended) fun _ => Ended := by
    unfold recoverFrom
    rw [ends_bind, enqueue, ends_modify, ends_bind, ends_get]
    refine (drain_runs entries _ _ rfl).imp ?_ ?_
    · exact fun _ _ further => .head .requests further
    · exact fun _ _ further => .head .requests further
  exact ends_both.mp ends

/-- Recoveries run from the first request to the end of the last one. -/
theorem runs_recoverEach (entries : List UInt64) (state : Recovery σ) :
    Runs backend settings ⟨.waiting, entries, state⟩
      ⟨.waiting, [], recoverEach backend settings entries state⟩ := by
  induction entries generalizing state with
  | nil => exact .refl
  | cons entry entries inductionHypothesis =>
      exact (runs_recoverFrom entry state).trans (inductionHypothesis _)

end Adequacy

end VmRecovery.Flow

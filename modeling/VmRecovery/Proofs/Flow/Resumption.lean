import VmRecovery.Proofs.Flow.Course
import VmRecovery.Proofs.Flow.Tracking
import VmRecovery.Proofs.Simulation.Engine
import VmRecovery.Proofs.Simulation.Handlers

/-!
# Jobs resume where their parents stopped

A continuation is replayed from the snapshot that its parent started with, for as many steps as
the parent had reached. With an engine that steps deterministically the continuation's trace is
therefore the rest of the parent's: its first step is the one behind the entry or the branch
(`continuations_resume_behind`).
-/

namespace VmRecovery.Flow

open Machine RecoveryM Trace

variable {σ : Type} {backend : Backend σ} {settings : Settings} {start stage stage' : Stage σ}
  {walk : Walk} {job : Job} {block : Position} {engine : Snapshot → Nat → Run}

/-- The snapshot that the trace of a job starts from. -/
def Job.origin (backend : Backend σ) (job : Job) : Snapshot :=
  job.snapshot.getD (backend.defaultSnapshot job.start)

/-- A running job goes by the trace of its engine run: the steps before its cursor and those that
it has left. -/
structure Job.Traces (backend : Backend σ) (settings : Settings) (engine : Snapshot → Nat → Run)
    (job : Job) (walk : Walk) : Prop where
  snapshot : walk.snapshot = job.origin backend
  split : ∃ earlier, earlier.length = walk.walker.cursor ∧
    earlier ++ walk.walker.remaining =
      (engine (job.origin backend) (stepBudget settings job.kind)).steps

namespace RecoveryM

/-- A job that is launched starts at the beginning of an engine run. -/
theorem launch_walks (backend : Backend σ) (settings : Settings) (job : Job) (state : Recovery σ) :
    Ends (launch backend settings job) state
      (fun walk _ => ∃ run host,
        (backend.run (job.origin backend) (stepBudget settings job.kind) host).1 = .ok run ∧
        walk = { snapshot := job.origin backend
                 source := job.source
                 walker := .ofSteps run.steps
                 phase := job.kind.initialPhase })
      fun _ _ => True := by
  simp only [launch, count, note, setSelection, startWalk, SessionM.note, SessionM.noteAll,
    ends_bind, ends_modify, ends_get, ends_inSession, ends_pure]
  refine (startWalk_ends backend _ _ _ _).imp ?_ fun _ _ _ => trivial
  rintro answer session ⟨run, ran, rfl⟩
  exact ⟨run, _, ran, rfl⟩

/-- With an engine that does not fail, the continuation behind an occurrence is queued. -/
theorem continueBehind_queues
    (answers : ∀ snapshot budget host, (backend.run snapshot budget host).1 =
      .ok (engine snapshot budget)) (state : Recovery σ) :
    Ends (continueBehind backend walk block) state
      (fun _ after => after.queue = state.queue ++
        [.resuming (engine walk.snapshot walk.walker.reached).final block])
      fun _ _ => False := by
  simp only [continueBehind, replay, resume, enqueue, note, SessionM.execute, SessionM.call,
    SessionM.note, SessionM.noteAll, ends_bind, ends_inSession, ends_modifyGet, ends_modify,
    ends_pure, answers]

/-- An instruction behind which exactly one continuation is queued: an entry, a jump to a
constant, or a jump for whose block the analysis knows a single target. -/
inductive ResumesOnce (backend : Backend σ) (block : Position) (recorded : Recovery σ) :
    Operation → Prop where
  | init (saved : List SavedValue) : ResumesOnce backend block recorded (.init saved)
  | jmpConst : ResumesOnce backend block recorded .jmpConst
  | jmp {owner : Block} {fragment : Ir.Fragment} {target : UInt64}
      (found : recorded.graph.block? block = some owner)
      (lifted : (backend.liftBlock owner recorded.session.host).1 = some fragment)
      (single : backend.branchTargets fragment = [target]) :
      ResumesOnce backend block recorded .jmp

/-- The effect of such an instruction is the continuation behind it. -/
theorem applyEffect_queues {instruction : Instruction} {recorded : Recovery σ}
    (answers : ∀ snapshot budget host, (backend.run snapshot budget host).1 =
      .ok (engine snapshot budget))
    (resumes : ResumesOnce backend block recorded instruction.operation)
    (occurrence : Occurrence) :
    Ends (applyEffect backend settings walk occurrence block instruction) recorded
      (fun _ after => after.queue = recorded.queue ++
        [.resuming (engine walk.snapshot walk.walker.reached).final block])
      fun _ _ => False := by
  unfold applyEffect
  generalize instruction.operation = operation at resumes ⊢
  cases resumes with
  | init saved => exact continueBehind_queues answers recorded
  | jmpConst => exact continueBehind_queues answers recorded
  | jmp found lifted single =>
      simp only [executeJmp, liftBlockAt, found, lifted, single, setSelection, SessionM.liftBlock,
        SessionM.call, ends_bind, ends_get, ends_inSession, ends_modifyGet, ends_modify, ends_pure]
      exact continueBehind_queues answers _

end RecoveryM

/-- A turn that performs such an instruction queues the continuation behind its occurrence. -/
theorem Performs.queues {state recorded : Recovery σ} {find : Find}
    (performs : Performs backend walk state find block recorded) (settings : Settings)
    (answers : ∀ snapshot budget host, (backend.run snapshot budget host).1 =
      .ok (engine snapshot budget))
    (resumes : ResumesOnce backend block recorded find.instruction.operation)
    (unfinished : walk.phase ≠ .finished) :
    find.occurrence.steps <+: walk.walker.remaining ∧
      Ends (turn backend settings walk) state
        (fun _ after => after.queue = state.queue ++
          [.resuming
            (engine walk.snapshot (walk.walker.cursor + find.occurrence.length)).final block])
        fun _ _ => False := by
  have sameQueue := performs.performed.sameQueue
  obtain ⟨walk', middle, inspects, puts⟩ := performs
  obtain ⟨-, ahead, -⟩ := (inspect_ends backend walk state).of_ok inspects
  obtain ⟨walker, rfl⟩ := ahead.sameJob
  refine ⟨ahead.ahead, ?_⟩
  have reached : walker.reached = walk.walker.cursor + find.occurrence.length := ahead.reached
  rw [← reached, ← sameQueue]
  apply ends_turn_of_effect unfinished inspects puts
  exact applyEffect_queues answers resumes find.occurrence

/-! Runs. -/

/-- Every turn leaves a job at its trace. -/
theorem Course.snapshot_eq {state after : Recovery σ} {walk' : Walk}
    (course : Course backend settings walk state (some walk') after) :
    walk'.snapshot = walk.snapshot := by
  cases course with
  | passes inspected kept goesOn =>
      obtain ⟨walker, rfl⟩ := goesOn walk' rfl
      rfl
  | revisits inspected reads put => rfl
  | performs performs follows goesOn =>
      obtain ⟨walker, rfl⟩ := goesOn walk' rfl
      rfl

/-- The steps of an occurrence that is passed count as earlier ones. -/
theorem exists_earlier_past {steps earlier : List Step} {walker : Walker} (grouping : Grouping)
    (counted : earlier.length = walker.cursor) (split : earlier ++ walker.remaining = steps) :
    ∃ earlier', earlier'.length = (walker.past grouping).cursor ∧
      earlier' ++ (walker.past grouping).remaining = steps := by
  refine ⟨earlier ++ (walker.current grouping).steps, ?_, ?_⟩
  · rw [List.length_append, counted]
    rfl
  · rw [List.append_assoc, walker.steps_append_remaining_past, split]

theorem Job.Traces.continued {walk' : Walk} {grouping : Grouping}
    (traces : job.Traces backend settings engine walk) (same : walk'.snapshot = walk.snapshot)
    (continued : Continued walk walk' grouping) : job.Traces backend settings engine walk' := by
  obtain ⟨earlier, counted, split⟩ := traces.split
  refine ⟨same.trans traces.snapshot, ?_⟩
  obtain ⟨once, countedOnce, splitOnce⟩ := exists_earlier_past grouping counted split
  rcases continued.moved with moved | moved
  · exact moved ▸ ⟨once, countedOnce, splitOnce⟩
  · exact moved ▸ exists_earlier_past grouping countedOnce splitOnce

/-- A running job goes by its trace at every stage of a run. -/
theorem Runs.traces
    (answers : ∀ snapshot budget host, (backend.run snapshot budget host).1 =
      .ok (engine snapshot budget))
    (idle : ∀ job walk, start.activity ≠ .running job walk)
    (runs : Runs backend settings start stage) (running : stage.activity = .running job walk) :
    job.Traces backend settings engine walk := by
  induction runs generalizing job walk with
  | refl => exact absurd running (idle job walk)
  | tail _ advance inductionHypothesis =>
      cases advance with
      | launches queued allowed launched =>
          obtain ⟨run, host, ran, walks⟩ := (launch_walks backend settings _ _).of_ok launched
          cases running
          obtain rfl : engine _ _ = run := Except.ok.inj ((answers _ _ host).symm.trans ran)
          exact walks ▸ ⟨rfl, [], rfl, rfl⟩
      | turns unfinished turned =>
          have course := (turn_course backend settings _ unfinished).of_ok turned
          have continued := ((turn_ends backend settings _ unfinished).of_ok turned).2
          cases running
          exact (inductionHypothesis rfl).continued course.snapshot_eq continued
      | requests => cases running
      | concludes => cases running
      | stumbles => exact absurd running (Activity.settled_ne_running _ job walk)
      | fails => exact absurd running (Activity.settled_ne_running _ job walk)
      | completes => exact absurd running (Activity.settled_ne_running _ job walk)

/-- With an engine that steps deterministically and never fails, the turn of any job that performs
an entry, a jump to a constant or a jump with a single target queues one continuation. The
occurrence lies at the cursor of the job in its trace, and the trace of the continuation is the
job's own trace, run for longer, without the steps up to the end of the occurrence. -/
theorem continuations_resume_behind (backend : Backend σ) (settings : Settings)
    (stepper : Stepper engine)
    (answers : ∀ snapshot budget host, (backend.run snapshot budget host).1 =
      .ok (engine snapshot budget))
    {host : σ} {cache : Cache} {entries : List UInt64} {recorded : Recovery σ} {find : Find}
    (runs : Runs backend settings ⟨.waiting, entries, .initial host cache⟩ stage)
    (running : stage.activity = .running job walk)
    (performs : Performs backend walk stage.state find block recorded)
    (resumes : ResumesOnce backend block recorded find.instruction.operation) :
    ∃ stage' earlier later child,
      Advance backend settings stage stage' ∧
      stage'.state.queue = stage.state.queue ++ [child] ∧
      child.kind = .continuation ∧ child.source = some block ∧
      earlier.length = walk.walker.cursor ∧
      (engine (job.origin backend) (stepBudget settings job.kind)).steps =
        earlier ++ find.occurrence.steps ++ later ∧
      ∀ budget, (engine (child.origin backend) budget).steps =
        ((engine (job.origin backend)
          (earlier.length + find.occurrence.length + budget)).steps.drop
            (earlier.length + find.occurrence.length)) := by
  have unfinished : walk.phase ≠ .finished := by
    rcases performs.performed.reads.active with seeking | reading <;> simp [*]
  obtain ⟨snapshot, earlier, counted, split⟩ := runs.traces answers (by simp) running
  obtain ⟨⟨later, ahead⟩, queues⟩ := performs.queues settings answers resumes unfinished
  have trace : (engine (job.origin backend) (stepBudget settings job.kind)).steps =
      earlier ++ find.occurrence.steps ++ later := by
    rw [List.append_assoc, ahead, split]
  cases turned : (turn backend settings walk).run.run stage.state with
  | mk outcome after =>
      cases outcome with
      | error fault => exact (queues.of_error turned).elim
      | ok walk' =>
          have queued := queues.of_ok turned
          rw [snapshot, ← counted] at queued
          refine ⟨⟨.running job walk', stage.entries, after⟩, earlier, later, _, ?_, queued, rfl,
            rfl, counted, trace, fun budget => ?_⟩
          · obtain ⟨activity, entries, state⟩ := stage
            cases running
            exact .turns unfinished turned
          · have reached : earlier.length + find.occurrence.length ≤
                (engine (job.origin backend) (stepBudget settings job.kind)).steps.length := by
              rw [trace, List.length_append, List.length_append, Occurrence.length]
              omega
            exact stepper.steps_from reached budget

section Witness

open Native Simulation

/-- Native code that pushes a key and calls an entry routine, behind which lies one handler. -/
def keyPushEntry : Scenario where
  stackPointer := 0x1000
  registers := {}
  memory := []
  code :=
    [⟨0x8, some 0x9, []⟩, ⟨0x9, some 0x10, []⟩, ⟨0x10, some 0x11, []⟩, ⟨0x11, some 0x30, []⟩,
      ⟨0x30, some 0x31, []⟩, ⟨0x31, some 0x40, []⟩]
  failing := []
  lifts := [⟨0x8, some 0x11, some (entryRoutine 0x8 0xfffffff0)⟩]
  blockLifts := []
  branches := []
  known := []
  decoder :=
    (Table.ofList
      [{ address := 0x8, mnemonic := .push, operands := [⟨.immediate 7, 4⟩] },
        { address := 0x9, mnemonic := .call, operands := [⟨.immediate 0x10, 4⟩] },
        { address := 0x11, mnemonic := .ret }, { address := 0x31, mnemonic := .ret }]).decoder

theorem isReliable_keyPushEntry : keyPushEntry.IsReliable where
  runs := rfl
  lines := by simp [keyPushEntry]

/-- The stage at which the job from the key push is about to take its first turn. -/
def keyPushStage : Stage Host :=
  Stage.after keyPushEntry.backend {} ⟨.waiting, [0x8], .initial {} {}⟩ 2

/-- What is performed at that stage: the kind of the job, the addresses that are passed, and the
operation. -/
def keyPushTurn : Option (JobKind × List UInt64 × Operation) :=
  (keyPushStage.performs? keyPushEntry.backend).map fun (job, _, find, _, _) =>
    (job.kind, find.occurrence.addresses, find.instruction.operation)

/-- The key push and the entry routine are passed together, and the continuation goes on at the
handler behind them. -/
theorem key_push_entry_resumes :
    ∃ job walk find block recorded stage' earlier later child,
      keyPushStage.activity = .running job walk ∧
      Performs keyPushEntry.backend walk keyPushStage.state find block recorded ∧
      find.occurrence.addresses = [0x8, 0x9, 0x10, 0x11] ∧
      Advance keyPushEntry.backend {} keyPushStage stage' ∧
      stage'.state.queue = keyPushStage.state.queue ++ [child] ∧
      earlier.length = walk.walker.cursor ∧
      (keyPushEntry.engine (job.origin keyPushEntry.backend) 0x10000).steps =
        earlier ++ find.occurrence.steps ++ later ∧
      ∀ budget, (keyPushEntry.engine (child.origin keyPushEntry.backend) budget).steps =
        (keyPushEntry.engine (job.origin keyPushEntry.backend)
          (earlier.length + 4 + budget)).steps.drop (earlier.length + 4) := by
  have performed : keyPushTurn =
      some (.entry, [0x8, 0x9, 0x10, 0x11], .init (List.replicate 11 (.register "EAX"))) := by
    cbv
  obtain ⟨⟨job, walk, find, block, recorded⟩, computed, facts⟩ :=
    Option.map_eq_some_iff.mp performed
  obtain ⟨isEntry, facts⟩ := Prod.mk.inj facts
  obtain ⟨passed, isInit⟩ := Prod.mk.inj facts
  obtain ⟨running, performs⟩ := Stage.performs_of_performs? computed
  have resumes : ResumesOnce keyPushEntry.backend block recorded find.instruction.operation := by
    rw [isInit]
    exact .init _
  obtain ⟨stage', earlier, later, child, advance, queued, -, -, counted, trace, resumed⟩ :=
    continuations_resume_behind keyPushEntry.backend {}
      (Scenario.stepper_engine isReliable_keyPushEntry) (Scenario.run_eq isReliable_keyPushEntry)
      (Stage.runs_after _ _ _ 2) running performs resumes
  have four : find.occurrence.length = 4 := by
    rw [Occurrence.length, ← List.length_map (f := Step.address)]
    exact congrArg List.length passed
  rw [isEntry] at trace
  rw [four] at resumed
  exact ⟨job, walk, find, block, recorded, stage', earlier, later, child, running, performs, passed,
    advance, queued, counted, trace, resumed⟩

end Witness

end VmRecovery.Flow

import VmRecovery.Proofs.Flow.Progress
import VmRecovery.Proofs.Flow.SaveArea
import VmRecovery.Proofs.Machine.Memory

/-!
# Following a branch

A jump is followed by as many jobs as its block has targets, at most two. Behind a single target
the trace is simply continued. Two targets are told apart by the branch selector on top of the
operand stack: the state right before the jump is restored, each target is forced into a copy of
it, and the jump handler runs on either copy (`Forks`). Afterwards no registers are selected
(`branch_queues_targets`).

Registers stay selected within a block only, so a job that has a pair selected when it comes to a
jump has its block open, and the jump is all that the graph gains.
-/

namespace VmRecovery.Flow

open Machine RecoveryM Trace

variable {σ : Type} {backend : Backend σ} {settings : Settings} {start stage stage' : Stage σ}
  {job : Job} {walk walk' : Walk} {state recorded : Recovery σ} {find : Find} {block : Position}

/-! What is known of a running job. -/

/-- A running job goes by the trace of its own snapshot, and nothing is selected before it opens
its block. -/
structure Stage.Begun (backend : Backend σ) (stage : Stage σ) : Prop where
  snapshot : ∀ job walk, stage.activity = .running job walk → walk.snapshot = job.origin backend
  unselected : ∀ job walk, stage.activity = .running job walk → walk.block = none →
    stage.state.selection = .none

theorem Stage.begun_of_idle (idle : ∀ job walk, stage.activity ≠ .running job walk) :
    stage.Begun backend where
  snapshot := fun job walk running => absurd running (idle job walk)
  unselected := fun job walk running => absurd running (idle job walk)

/-- Only what is performed selects registers, and it has its block open. -/
theorem Course.unselected {after : Recovery σ}
    (course : Course backend settings walk state (some walk') after)
    (unselected : walk.block = none → state.selection = .none) (fresh : walk'.block = none) :
    after.selection = .none := by
  cases course with
  | passes inspected kept goesOn =>
      obtain ⟨walker, rfl⟩ := goesOn walk' rfl
      exact inspected.sameSelection.trans (unselected fresh)
  | revisits inspected reads put => exact inspected.sameSelection.trans (unselected fresh)
  | performs performs follows goesOn =>
      obtain ⟨walker, rfl⟩ := goesOn walk' rfl
      cases fresh

theorem Advance.begun (advance : Advance backend settings stage stage')
    (begun : stage.Begun backend) : stage'.Begun backend := by
  cases advance with
  | launches queued allowed launched =>
      obtain ⟨steps, session, rfl, rfl⟩ := (launch_ends backend settings _ _).of_ok launched
      constructor
      · rintro _ _ ⟨⟩
        rfl
      · rintro _ _ ⟨⟩ -
        rfl
  | turns unfinished turned =>
      have course := (turn_course backend settings _ unfinished).of_ok turned
      constructor
      · rintro _ _ ⟨⟩
        exact course.snapshot_eq.trans (begun.snapshot _ _ rfl)
      · rintro _ _ ⟨⟩ fresh
        exact course.unselected (begun.unselected _ _ rfl) fresh
  | requests => exact Stage.begun_of_idle (by simp)
  | concludes => exact Stage.begun_of_idle (by simp)
  | stumbles => exact Stage.begun_of_idle (Activity.settled_ne_running _)
  | fails => exact Stage.begun_of_idle (Activity.settled_ne_running _)
  | completes => exact Stage.begun_of_idle (Activity.settled_ne_running _)

theorem Runs.begun (runs : Runs backend settings start stage) (begun : start.Begun backend) :
    stage.Begun backend := by
  induction runs with
  | refl => exact begun
  | tail _ advance inductionHypothesis => exact advance.begun inductionHypothesis

/-! What a turn that performs a jump comes to. -/

/-- Instructions other than an entry are performed by jobs that read handlers. -/
theorem Performed.reading (performed : Performed backend walk state find block recorded)
    (notEntry : ∀ saved, find.instruction.operation ≠ .init saved) :
    walk.phase = .readingHandlers := by
  have reads := performed.reads
  rcases reads.active with seeking | reading
  · rw [seeking] at reads
    obtain ⟨address, saved, enters, -⟩ := reads.isEntry
    exact absurd enters (notEntry saved)
  · exact reading

/-- A handler is found where the job stands. -/
theorem inspect_cursor (backend : Backend σ) (state : Recovery σ)
    (reading : walk.phase = .readingHandlers) :
    Ends (inspect backend walk) state
      (fun answer _ => answer.1.walker.cursor = walk.walker.cursor) fun _ _ => True := by
  rw [inspect_eq backend (.inr reading), ends_bind]
  refine (examine_ends backend walk state).imp ?_ fun _ _ _ => trivial
  rintro ⟨occurrence, looked⟩ examined ⟨-, here⟩
  refine (identify_ends backend walk.phase occurrence looked examined).imp ?_ fun _ _ _ => trivial
  rintro ⟨_, find?⟩ _ ⟨rfl, -⟩
  exact here (by simp [reading])

/-- A turn that performs a jump follows the branch from where the job stands, at the next steps of
its trace. -/
theorem Performs.ends_jmp (performs : Performs backend walk state find block recorded)
    (settings : Settings) (isJmp : find.instruction.operation = .jmp) :
    find.occurrence.steps <+: walk.walker.remaining ∧
      ∃ walk' : Walk, walk'.snapshot = walk.snapshot ∧
        walk'.walker.cursor = walk.walker.cursor ∧
        walk'.walker.reached = walk.walker.cursor + find.occurrence.length ∧
        ∀ (done : Recovery σ → Prop) (failed : Fault → Recovery σ → Prop),
          Ends (executeJmp backend walk' find.occurrence block) recorded (fun _ => done) failed →
            Ends (turn backend settings walk) state (fun _ => done) failed := by
  have reading : walk.phase = .readingHandlers := performs.performed.reading (by simp [isJmp])
  have unfinished : walk.phase ≠ .finished := by simp [reading]
  obtain ⟨walk', middle, inspects, puts⟩ := performs
  obtain ⟨-, ahead, -⟩ := (inspect_ends backend walk state).of_ok inspects
  have here := (inspect_cursor backend state reading).of_ok inspects
  have sameSnapshot : walk'.snapshot = walk.snapshot := by
    obtain ⟨walker, rfl⟩ := ahead.sameJob
    rfl
  refine ⟨ahead.ahead, walk', sameSnapshot, here, ahead.reached, fun done failed follows => ?_⟩
  apply ends_turn_of_effect unfinished inspects puts
  rwa [applyEffect, isJmp]

/-! Engine runs and the jobs that they lead to. -/

namespace RecoveryM

/-- Replaying calls the engine once. -/
theorem replay_ends (backend : Backend σ) (snapshot : Snapshot) (steps : Nat)
    (state : Recovery σ) :
    Ends (replay backend snapshot steps) state
      (fun final after => ∃ run session,
        backend.run snapshot steps state.session.host = (.ok run, session.host) ∧
        final = run.final ∧ after = { state with session })
      fun fault _ => (backend.run snapshot steps state.session.host).1 = .error fault := by
  rw [replay, ends_bind, ends_inSession]
  refine (execute_ends backend snapshot steps state.session).imp ?_ fun _ _ stops => stops
  intro run session answers
  exact ⟨run, session, answers, rfl, rfl⟩

theorem resume_ends (snapshot : Snapshot) (block : Position) (state : Recovery σ) :
    Ends (resume snapshot block) state
      (fun _ after => ∃ session, session.host = state.session.host ∧
        after = { state with session, queue := state.queue ++ [.resuming snapshot block] })
      fun _ _ => False := by
  simp only [resume, enqueue, note, SessionM.note, SessionM.noteAll, ends_bind, ends_inSession,
    ends_modify]
  exact ⟨{ state.session with
    notices := state.session.notices ++ [Notice.jobQueued (.resuming snapshot block)] }, rfl, rfl⟩

/-- What the engine answers to a run decides whether the job behind it is queued. -/
theorem replay_resume_ends (backend : Backend σ) (snapshot : Snapshot) (steps : Nat)
    (block : Position) (state : Recovery σ) :
    Ends (replay backend snapshot steps >>= fun next => resume next block) state
      (fun _ after => ∃ run session,
        backend.run snapshot steps state.session.host = (.ok run, session.host) ∧
        after = { state with session, queue := state.queue ++ [.resuming run.final block] })
      fun fault _ => (backend.run snapshot steps state.session.host).1 = .error fault := by
  rw [ends_bind]
  refine (replay_ends backend snapshot steps state).imp ?_ fun _ _ stops => stops
  rintro _ _ ⟨run, session, answers, rfl, rfl⟩
  refine (resume_ends run.final block { state with session }).imp ?_ fun _ _ => False.elim
  rintro _ _ ⟨session', sameHost, rfl⟩
  exact ⟨run, session', answers.trans (by rw [sameHost]), rfl⟩

end RecoveryM

/-- Following a branch both ways, from the host of the collaborators before it: the engine is run up
to the branch, the stack slot is forced to either target, and the engine is run through the branch
from there. The outcome is the two snapshots behind it, unless one of the runs fails. -/
inductive Forks (backend : Backend σ) (origin : Snapshot) (cursor length : Nat) (stack : String)
    (first second : UInt64) (host : σ) : Except Fault (Snapshot × Snapshot) → Prop where
  | stops {fault : Fault} (fails : (backend.run origin cursor host).1 = .error fault) :
      Forks backend origin cursor length stack first second host (.error fault)
  | stopsFirst {before : Run} {host₁ : σ} {steered : Snapshot} {fault : Fault}
      (reaches : backend.run origin cursor host = (.ok before, host₁))
      (steers : before.final.Steered stack first steered)
      (fails : (backend.run steered length host₁).1 = .error fault) :
      Forks backend origin cursor length stack first second host (.error fault)
  | stopsSecond {before one : Run} {host₁ host₂ : σ} {steered steered' : Snapshot} {fault : Fault}
      (reaches : backend.run origin cursor host = (.ok before, host₁))
      (steers : before.final.Steered stack first steered)
      (goesOn : backend.run steered length host₁ = (.ok one, host₂))
      (steers' : before.final.Steered stack second steered')
      (fails : (backend.run steered' length host₂).1 = .error fault) :
      Forks backend origin cursor length stack first second host (.error fault)
  | both {before one two : Run} {host₁ host₂ host₃ : σ} {steered steered' : Snapshot}
      (reaches : backend.run origin cursor host = (.ok before, host₁))
      (steers : before.final.Steered stack first steered)
      (goesOn : backend.run steered length host₁ = (.ok one, host₂))
      (steers' : before.final.Steered stack second steered')
      (goesOn' : backend.run steered' length host₂ = (.ok two, host₃)) :
      Forks backend origin cursor length stack first second host (.ok (one.final, two.final))

namespace RecoveryM

/-- One way of a branch whose stack register is known. -/
theorem fork_ends (backend : Backend σ) (before : Snapshot) (length : Nat) {stack : String}
    (known : (View.ofName? stack).isSome) (block : Position) (target : UInt64)
    (state : Recovery σ) :
    Ends (fork backend before length stack block target) state
      (fun _ after => ∃ steered run session, before.Steered stack target steered ∧
        backend.run steered length state.session.host = (.ok run, session.host) ∧
        after = { state with session, queue := state.queue ++ [.resuming run.final block] })
      fun fault _ => ∃ steered, before.Steered stack target steered ∧
        (backend.run steered length state.session.host).1 = .error fault := by
  obtain ⟨steered, forced, steers⟩ := before.exists_steered known target
  rw [fork, forced]
  simp only [note, SessionM.note, SessionM.noteAll]
  rw [ends_bind, ends_inSession, ends_modify]
  refine (replay_resume_ends backend steered length block _).imp ?_ ?_
  · rintro _ _ ⟨run, session, answers, rfl⟩
    exact ⟨steered, run, session, steers, answers, rfl⟩
  · exact fun _ _ fails => ⟨steered, steers, fails⟩

/-- The targets of a jump are those of its block as it has been lifted. -/
theorem executeJmp_ends {owner : Block} {fragment : Ir.Fragment} {host : σ}
    {done : Unit → Recovery σ → Prop} {failed : Fault → Recovery σ → Prop} (walk : Walk)
    (occurrence : Occurrence) (found : recorded.graph.block? block = some owner)
    (lifted : backend.liftBlock owner recorded.session.host = (some fragment, host)) :
    Ends (executeJmp backend walk occurrence block) recorded done failed ↔
      Ends
        (do
          match backend.branchTargets fragment with
          | [_] => continueBehind backend walk block
          | [first, second] =>
              match (← get).selection.stack? with
              | none => note (.stackUnknown block)
              | some stack =>
                  let before ← replay backend walk.snapshot walk.walker.cursor
                  fork backend before occurrence.length stack block first
                  fork backend before occurrence.length stack block second
          | targets => note (.branchUnresolved block targets.length)
          setSelection .none)
        { recorded with session := { recorded.session with host } } done failed := by
  rw [executeJmp, ends_bind, liftBlockAt, ends_bind, ends_get, found]
  simp only [SessionM.liftBlock, SessionM.call, ends_bind, ends_inSession, ends_modifyGet, lifted]
  rfl

variable {owner : Block} {fragment : Ir.Fragment} {lifting : σ}

/-- A branch with two targets is followed both ways. -/
theorem executeJmp_two (walk : Walk) (occurrence : Occurrence) {first second : UInt64}
    {stack : String}
    (found : recorded.graph.block? block = some owner)
    (lifted : backend.liftBlock owner recorded.session.host = (some fragment, lifting))
    (ways : backend.branchTargets fragment = [first, second])
    (selected : recorded.selection.stack? = some stack) (known : (View.ofName? stack).isSome) :
    Ends (executeJmp backend walk occurrence block) recorded
      (fun _ after => ∃ one two session,
        Forks backend walk.snapshot walk.walker.cursor occurrence.length stack first second lifting
          (.ok (one, two)) ∧
        after = { recorded with
          session
          selection := .none
          queue := recorded.queue ++ [.resuming one block, .resuming two block] })
      fun fault _ =>
        Forks backend walk.snapshot walk.walker.cursor occurrence.length stack first second lifting
          (.error fault) := by
  rw [executeJmp_ends walk occurrence found lifted, ways]
  simp only [ends_bind, ends_get, selected]
  refine (replay_ends backend walk.snapshot walk.walker.cursor _).imp ?_ fun _ _ => .stops
  rintro _ _ ⟨before, session, reaches, rfl, rfl⟩
  refine (fork_ends backend before.final occurrence.length known block first _).imp ?_ ?_
  · rintro _ _ ⟨steered, one, session', steers, goesOn, rfl⟩
    refine (fork_ends backend before.final occurrence.length known block second _).imp ?_ ?_
    · rintro _ _ ⟨steered', two, session'', steers', goesOn', rfl⟩
      refine ⟨one.final, two.final, session'', .both reaches steers goesOn steers' goesOn', ?_⟩
      simp [List.append_assoc]
    · rintro fault _ ⟨steered', steers', fails⟩
      exact .stopsSecond reaches steers goesOn steers' fails
  · rintro fault _ ⟨steered, steers, fails⟩
    exact .stopsFirst reaches steers fails

/-- A branch with one target is continued behind its occurrence. -/
theorem executeJmp_one (walk : Walk) (occurrence : Occurrence) {target : UInt64}
    (found : recorded.graph.block? block = some owner)
    (lifted : backend.liftBlock owner recorded.session.host = (some fragment, lifting))
    (way : backend.branchTargets fragment = [target]) :
    Ends (executeJmp backend walk occurrence block) recorded
      (fun _ after => ∃ run session,
        backend.run walk.snapshot walk.walker.reached lifting = (.ok run, session.host) ∧
        after = { recorded with
          session
          selection := .none
          queue := recorded.queue ++ [.resuming run.final block] })
      fun fault _ =>
        (backend.run walk.snapshot walk.walker.reached lifting).1 = .error fault := by
  rw [executeJmp_ends walk occurrence found lifted, way]
  simp only [ends_bind, continueBehind]
  refine (replay_ends backend walk.snapshot walk.walker.reached _).imp ?_ fun _ _ fails => fails
  rintro _ _ ⟨run, session, answers, rfl, rfl⟩
  refine (resume_ends run.final block _).imp ?_ fun _ _ => False.elim
  rintro _ _ ⟨session', sameHost, rfl⟩
  exact ⟨run, session', by rw [sameHost]; exact answers, rfl⟩

/-- A branch with no target, or with too many, is not followed. -/
theorem executeJmp_unresolved (walk : Walk) (occurrence : Occurrence)
    (found : recorded.graph.block? block = some owner)
    (lifted : backend.liftBlock owner recorded.session.host = (some fragment, lifting))
    (notOne : (backend.branchTargets fragment).length ≠ 1)
    (notTwo : (backend.branchTargets fragment).length ≠ 2) :
    Ends (executeJmp backend walk occurrence block) recorded
      (fun _ after => ∃ session, after = { recorded with session, selection := .none })
      fun _ _ => False := by
  rw [executeJmp_ends walk occurrence found lifted]
  split
  · rename_i single
    simp [single] at notOne
  · rename_i double
    simp [double] at notTwo
  · simp only [note, SessionM.note, SessionM.noteAll, ends_bind, ends_inSession, ends_modify,
      setSelection]
    exact ⟨_, rfl⟩

end RecoveryM

/-- An instruction that is performed while registers are selected is all that the graph gains. -/
theorem Performs.appends (performs : Performs backend walk state find block recorded)
    (unselected : walk.block = none → state.selection = .none) {stack : String}
    (selected : state.selection.stack? = some stack) :
    state.graph.appendInstruction block find.instruction = .ok recorded.graph := by
  have isOpen : walk.block ≠ none := by
    intro fresh
    rw [unselected fresh] at selected
    cases selected
  cases performs.performed.put with
  | opens fresh free creates grows => exact absurd fresh isOpen
  | appends own grows => exact grows

/-- A job performs a jump whose block can be lifted, at the next steps of its trace. If the block
has two targets and a known stack register is selected, the branch is followed both ways: two
continuations of the block are queued, the first one for the first target, unless the engine fails;
no registers are selected afterwards, and the graph has gained the jump only. If the block has one
target, the continuation behind the occurrence is queued, and none otherwise. -/
theorem branch_queues_targets (backend : Backend σ) (settings : Settings) {host : σ}
    {cache : Cache} {entries : List UInt64} {owner : Block} {fragment : Ir.Fragment} {lifting : σ}
    (runs : Runs backend settings ⟨.waiting, entries, .initial host cache⟩ stage)
    (running : stage.activity = .running job walk)
    (performs : Performs backend walk stage.state find block recorded)
    (isJmp : find.instruction.operation = .jmp)
    (found : recorded.graph.block? block = some owner)
    (lifted : backend.liftBlock owner recorded.session.host = (some fragment, lifting)) :
    let origin := job.origin backend
    let cursor := walk.walker.cursor
    let length := find.occurrence.length
    find.occurrence.steps <+: walk.walker.remaining ∧
    (∀ first second stack, backend.branchTargets fragment = [first, second] →
      stage.state.selection.stack? = some stack → (View.ofName? stack).isSome →
      Ends (turn backend settings walk) stage.state
        (fun _ after =>
          (∃ one two,
            Forks backend origin cursor length stack first second lifting (.ok (one, two)) ∧
            after.queue = stage.state.queue ++ [.resuming one block, .resuming two block]) ∧
          after.selection = .none ∧
          stage.state.graph.appendInstruction block find.instruction = .ok after.graph)
        fun fault _ =>
          Forks backend origin cursor length stack first second lifting (.error fault)) ∧
    (∀ target, backend.branchTargets fragment = [target] →
      Ends (turn backend settings walk) stage.state
        (fun _ after =>
          (∃ run resumed, backend.run origin (cursor + length) lifting = (.ok run, resumed) ∧
            after.queue = stage.state.queue ++ [.resuming run.final block]) ∧
          after.selection = .none)
        fun fault _ => (backend.run origin (cursor + length) lifting).1 = .error fault) ∧
    ((backend.branchTargets fragment).length ≠ 1 → (backend.branchTargets fragment).length ≠ 2 →
      Ends (turn backend settings walk) stage.state
        (fun _ after => after.queue = stage.state.queue ∧ after.selection = .none)
        fun _ _ => False) := by
  intro origin cursor length
  have begun : stage.Begun backend := runs.begun (Stage.begun_of_idle (by simp))
  have performed := performs.performed
  obtain ⟨ahead, walk', sameSnapshot, here, reached, ends⟩ := performs.ends_jmp settings isJmp
  have fromOrigin : walk'.snapshot = origin :=
    sameSnapshot.trans (begun.snapshot job walk running)
  refine ⟨ahead, ?_, ?_, ?_⟩
  · intro first second stack ways selected known
    -- Registers are selected only behind a first instruction, so that the block is open already.
    have grows := performs.appends (begun.unselected job walk running) selected
    rw [← performed.sameSelection] at selected
    have forks := executeJmp_two walk' find.occurrence found lifted ways selected known
    rw [fromOrigin, here] at forks
    apply ends
    refine forks.imp ?_ fun _ _ fails => fails
    rintro _ _ ⟨one, two, session, followed, rfl⟩
    exact ⟨⟨one, two, followed, by rw [performed.sameQueue]⟩, rfl, grows⟩
  · intro target way
    have resumes := executeJmp_one walk' find.occurrence found lifted way
    rw [fromOrigin, reached] at resumes
    apply ends
    refine resumes.imp ?_ fun _ _ fails => fails
    rintro _ _ ⟨run, session, answers, rfl⟩
    exact ⟨⟨run, session.host, answers, by rw [performed.sameQueue]⟩, rfl⟩
  · intro notOne notTwo
    apply ends
    refine (executeJmp_unresolved walk' find.occurrence found lifted notOne notTwo).imp ?_
      fun _ _ => id
    rintro _ _ ⟨session, rfl⟩
    exact ⟨performed.sameQueue, rfl⟩

section Witness

open Simulation

theorem isReliable_alternatingEntries : alternatingEntries.IsReliable where
  runs := rfl
  lines := by simp [alternatingEntries, Effect.IsReliable]

/-- A branch of an engine that answers every run is followed both ways. -/
theorem Forks.ne_error {origin : Snapshot} {cursor length : Nat} {stack : String}
    {first second : UInt64} {host : σ} {fault : Fault} {engine : Snapshot → Nat → Run}
    (answers : ∀ snapshot budget host, (backend.run snapshot budget host).1 =
      .ok (engine snapshot budget)) :
    ¬ Forks backend origin cursor length stack first second host (.error fault) := by
  intro forks
  cases forks with
  | stops fails => cases (answers _ _ _).symm.trans fails
  | stopsFirst reaches steers fails => cases (answers _ _ _).symm.trans fails
  | stopsSecond reaches steers goesOn steers' fails => cases (answers _ _ _).symm.trans fails

/-- What the job performs at a stage of the recovery: the block, the operation, the stack register
that is selected, and the targets of the block as it is lifted. -/
def alternatingBranch (count : Nat) :
    Option (Position × Operation × Option String × Option (List UInt64)) :=
  ((alternatingStage count).performs? alternatingEntries.backend).map
    fun (_, _, find, block, recorded) =>
      (block, find.instruction.operation, (alternatingStage count).state.selection.stack?,
        (recorded.graph.block? block).bind fun owner =>
          (alternatingEntries.backend.liftBlock owner recorded.session.host).1.map
            alternatingEntries.backend.branchTargets)

set_option maxRecDepth 2000

/-- The jump of the first block is followed both ways, to the exit and to the computed jump. -/
theorem alternating_jump_forks :
    alternatingBranch 6 = some (⟨0x30, 0x104⟩, .jmp, some "EBP", some [0x200, 0x300]) ∧
      ∃ job walk find recorded lifting ended after one two,
        (alternatingStage 6).activity = .running job walk ∧
        Performs alternatingEntries.backend walk (alternatingStage 6).state find ⟨0x30, 0x104⟩
          recorded ∧
        (turn alternatingEntries.backend {} walk).run.run (alternatingStage 6).state =
          (.ok ended, after) ∧
        Forks alternatingEntries.backend (job.origin alternatingEntries.backend)
          walk.walker.cursor find.occurrence.length "EBP" 0x200 0x300 lifting (.ok (one, two)) ∧
        after.queue = (alternatingStage 6).state.queue ++
          [.resuming one ⟨0x30, 0x104⟩, .resuming two ⟨0x30, 0x104⟩] := by
  have branches : alternatingBranch 6 =
      some (⟨0x30, 0x104⟩, .jmp, some "EBP", some [0x200, 0x300]) := by
    cbv
  refine ⟨branches, ?_⟩
  obtain ⟨⟨job, walk, find, block, recorded⟩, computed, facts⟩ :=
    Option.map_eq_some_iff.mp branches
  simp only [Prod.mk.injEq] at facts
  obtain ⟨rfl, isJmp, selected, targets⟩ := facts
  obtain ⟨owner, found, lifts⟩ := Option.bind_eq_some_iff.mp targets
  obtain ⟨fragment, lifted, ways⟩ := Option.map_eq_some_iff.mp lifts
  obtain ⟨running, performs⟩ := Stage.performs_of_performs? computed
  obtain ⟨-, forksBoth, -⟩ := branch_queues_targets alternatingEntries.backend {}
    (runs_alternatingStage 6) running performs isJmp found (Prod.ext lifted rfl)
  have forks := forksBoth 0x200 0x300 "EBP" ways selected (by cbv)
  rcases turned : (turn alternatingEntries.backend {} walk).run.run (alternatingStage 6).state with
    ⟨fault | ended, after⟩
  · exact absurd (forks.of_error turned)
      (Forks.ne_error (Scenario.run_eq isReliable_alternatingEntries))
  · obtain ⟨⟨one, two, followed, queued⟩, -, -⟩ := forks.of_ok turned
    exact ⟨job, walk, find, recorded, _, ended, after, one, two, running, performs, turned,
      followed, queued⟩

end Witness

end VmRecovery.Flow

import VmRecovery.Proofs.Flow.Chronicle
import VmRecovery.Proofs.Flow.Ownership
import VmRecovery.Proofs.Flow.SaveArea

/-!
# The calls that a job makes on the graph

Opening a block, appending to one and lifting one fail where the graph is not as the job expects
it. `Calls` lists when a turn makes such calls, and `turn_fails` states that the list is complete:
every other fault of a turn has a cause outside the graph. In a run none of these calls fails,
because a job calls only for blocks that it has opened itself (`one_block_for_each_position`).
-/

namespace VmRecovery.Flow

open Handler Machine RecoveryM Trace

variable {σ α β : Type} {backend : Backend σ} {settings : Settings} {start stage stage' : Stage σ}
  {walk : Walk} {state : Recovery σ} {calls : GraphCall → Graph → Prop}

/-- A call on the graph that fails if the graph is not as it should be. -/
inductive GraphCall where
  | creates (start : Position)
  | appends (start : Position) (instruction : Instruction)
  | lifts (start : Position)

/-- The fault that a call raises on account of the graph. -/
def GraphCall.fault? (graph : Graph) : GraphCall → Option Fault
  | creates start =>
      match graph.createBlock start with
      | .ok _ => none
      | .error fault => some fault
  | appends start instruction =>
      match graph.appendInstruction start instruction with
      | .ok _ => none
      | .error fault => some fault
  | lifts start =>
      match graph.block? start with
      | some _ => none
      | none => some (.blockMissing start)

/-- The calls that a job makes in its next turn, with the graph that they find. -/
inductive Calls (backend : Backend σ) (settings : Settings) (walk : Walk) (state : Recovery σ) :
    GraphCall → Graph → Prop where
  /-- The first instruction of a job opens a block if its position can be claimed. -/
  | creates {walk' : Walk} {find : Find} {middle : Recovery σ} {claimed : Graph}
      (inspects : (inspect backend walk).run.run state = (.ok (walk', some find), middle))
      (fresh : walk'.block = none)
      (free : (middle.graph.arrive walk'.source find.instruction.position).claim
        find.instruction.position = (true, claimed)) :
      Calls backend settings walk state (.creates find.instruction.position) claimed
  /-- The instruction is appended to the block. -/
  | appends {walk' : Walk} {find : Find} {middle opened : Recovery σ} {block : Position}
      (inspects : (inspect backend walk).run.run state = (.ok (walk', some find), middle))
      (opens : (openBlock walk' find.instruction.position).run.run middle =
        (.ok (some block), opened)) :
      Calls backend settings walk state (.appends block find.instruction) opened.graph
  /-- The block is lifted to find out where a branch or an exit leads. -/
  | lifts {find : Find} {recorded : Recovery σ} {block : Position}
      (performs : Performs backend walk state find block recorded)
      (leads : find.instruction.operation = .jmp ∨
        ∃ restored, find.instruction.operation = .exit restored) :
      Calls backend settings walk state (.lifts block) recorded.graph
  /-- The call that an exit turns out to be is appended behind it. -/
  | returns {find : Find} {recorded lifted probed : Recovery σ} {block : Position}
      {restored : List String} {fragment : Ir.Fragment} {target address : UInt64}
      (performs : Performs backend walk state find block recorded)
      (isExit : find.instruction.operation = .exit restored)
      (lifts : (liftBlockAt backend block).run.run recorded = (.ok fragment, lifted))
      (leads : backend.branchTargets fragment = [target])
      (reenters : (reentryPoint? backend settings fragment).run.run lifted =
        (.ok (some address), probed)) :
      Calls backend settings walk state
        (.appends block
          { position := find.instruction.position, size := 0, operation := .exitCall target })
        probed.graph

/-- The causes of faults that lie outside the graph. A fault of the engine is the last thing that
a collaborator answered. -/
inductive Cause (backend : Backend σ) (host : σ) : Fault → Prop where
  | exhausted (steps : Nat) : Cause backend host (.traceExhausted steps)
  | empty (index : Nat) : Cause backend host (.emptyOccurrence index)
  | unlifted (address : UInt64) : Cause backend host (.liftFailed address)
  | unclassified (position : Position) : Cause backend host (.unclassified position)
  | engine {fault : Fault} {snapshot : Snapshot} {budget : Nat} {before : σ}
      (answered : backend.run snapshot budget before = (.error fault, host)) :
      Cause backend host fault

/-! Actions that make no call on the graph. -/

namespace SessionM

/-- Collaborators fail only for such a cause. -/
def FailsFor (backend : Backend σ) (action : SessionM σ α) : Prop :=
  ∀ session, Ends action session (fun _ _ => True)
    fun fault after => Cause backend after.host fault

namespace FailsFor

/-- Two actions that fail only for outside causes do so one behind the other. -/
theorem bind {action : SessionM σ α} {next : α → SessionM σ β}
    (first : FailsFor backend action) (second : ∀ answer, FailsFor backend (next answer)) :
    FailsFor backend (action >>= next) := by
  intro session
  rw [ends_bind]
  exact (first session).imp (fun answer after _ => second answer after) fun _ _ cause => cause

theorem pure (answer : α) : FailsFor backend (Pure.pure answer) :=
  fun _ => trivial

/-- Noting does not fail. -/
theorem noteAll (notices : List Notice) : FailsFor backend (SessionM.noteAll notices) :=
  fun _ => trivial

/-- The engine fails with the answer it has just given. -/
theorem execute (snapshot : Snapshot) (budget : Nat) :
    FailsFor backend (SessionM.execute backend snapshot budget) := by
  intro session
  simp only [SessionM.execute, SessionM.call, ends_bind, ends_modifyGet]
  split
  · trivial
  · rename_i fault failed
    exact .engine (Prod.ext failed rfl)

/-- A walk fails to start only where the engine fails. -/
theorem startWalk (grouping : Grouping) (snapshot : Snapshot) (budget : Nat) :
    FailsFor backend (SessionM.startWalk backend grouping snapshot budget) := by
  refine (execute snapshot budget).bind fun run => ?_
  refine ((noteAll _).bind fun _ => (noteAll _).bind fun _ => pure _).bind fun renewed => ?_
  exact (noteAll _).bind fun _ => pure _

/-- Lifting an occurrence fails only where the lifter has no answer. -/
theorem lift (occurrence : Occurrence) (start : UInt64) :
    FailsFor backend (SessionM.lift backend occurrence start) := by
  intro session
  simp only [SessionM.lift, SessionM.call, ends_bind, ends_modifyGet]
  split
  · trivial
  · exact .unlifted start

/-- Lifting a block fails only where the lifter has no answer. -/
theorem liftBlock (block : Block) : FailsFor backend (SessionM.liftBlock backend block) := by
  intro session
  simp only [SessionM.liftBlock, SessionM.call, ends_bind, ends_modifyGet]
  split
  · trivial
  · exact .unlifted _

/-- A probe fails only where the engine fails or the lifter has no answer. -/
theorem probeEntry (address : UInt64) (budget : Nat) :
    FailsFor backend (SessionM.probeEntry backend address budget) := by
  refine (startWalk _ _ _).bind fun (walker, grouping) => ?_
  dsimp only
  split
  · exact pure _
  · exact (lift _ _).bind fun fragment => (noteAll _).bind fun _ => pure _

/-- Classifying does not fail. -/
theorem classify (site : Site) :
    FailsFor (σ := σ) backend (SessionM.classify backend.decoder site) :=
  (noteAll _).bind fun _ => pure _

end FailsFor

end SessionM

namespace RecoveryM

/-- A fault that a call on the graph raises, or that has a cause outside the graph. -/
def Excused (backend : Backend σ) (calls : GraphCall → Graph → Prop) (fault : Fault)
    (after : Recovery σ) : Prop :=
  (∃ call graph, calls call graph ∧ call.fault? graph = some fault) ∨
    Cause backend after.session.host fault

/-- An action fails only for a cause outside the graph. -/
def FailsFor (backend : Backend σ) (action : RecoveryM σ α) : Prop :=
  ∀ state, Ends action state (fun _ _ => True)
    fun fault after => Cause backend after.session.host fault

namespace FailsFor

/-- Two actions of a job that fail only for outside causes do so one behind the other. -/
theorem bind {action : RecoveryM σ α} {next : α → RecoveryM σ β}
    (first : FailsFor backend action) (second : ∀ answer, FailsFor backend (next answer)) :
    FailsFor backend (action >>= next) := by
  intro state
  rw [ends_bind]
  exact (first state).imp (fun answer after _ => second answer after) fun _ _ cause => cause

theorem pure (answer : α) : FailsFor (σ := σ) backend (Pure.pure answer) :=
  fun _ => trivial

theorem get : FailsFor (σ := σ) backend MonadState.get :=
  fun _ => trivial

/-- A change of the recovery does not fail. -/
theorem modify (change : Recovery σ → Recovery σ) : FailsFor backend (modify change) :=
  fun _ => trivial

/-- A collaborator fails for the same cause when it is called within a job. -/
theorem inSession {action : SessionM σ α} (fails : SessionM.FailsFor backend action) :
    FailsFor backend (RecoveryM.inSession action) := by
  intro state
  rw [ends_inSession]
  exact fails state.session

/-- A notice does not fail. -/
theorem note (notice : Notice) : FailsFor (σ := σ) backend (RecoveryM.note notice) :=
  inSession (.noteAll _)

/-- Running a walk again fails only where the engine fails. -/
theorem replay (snapshot : Snapshot) (steps : Nat) :
    FailsFor backend (RecoveryM.replay backend snapshot steps) :=
  (inSession (.execute snapshot steps)).bind fun _ => pure _

/-- Queueing a job does not fail. -/
theorem resume (snapshot : Snapshot) (source : Position) :
    FailsFor (σ := σ) backend (RecoveryM.resume snapshot source) :=
  (note _).bind fun _ => modify _

/-- Queueing the rest of a walk fails only where the engine fails. -/
theorem continueBehind (walk : Walk) (block : Position) :
    FailsFor backend (RecoveryM.continueBehind backend walk block) :=
  (replay _ _).bind fun next => resume next block

/-- A pair is revealed or a remark is made, neither of which fails. -/
theorem reveal (pair : RegisterPair) : FailsFor (σ := σ) backend (RecoveryM.reveal pair) := by
  refine get.bind fun state => ?_
  split
  · exact modify _
  · exact note _

/-- Taking up a target fails only where the engine fails. -/
theorem fork (before : Snapshot) (length : Nat) (stack : String) (block : Position)
    (target : UInt64) :
    FailsFor backend (RecoveryM.fork backend before length stack block target) := by
  unfold RecoveryM.fork
  split
  · exact note _
  · exact (note _).bind fun _ => (replay _ _).bind fun next => resume next block

/-- The search for a re-entry fails only where its probe does. -/
theorem reentering (settings : Settings) (fragment : Ir.Fragment) :
    FailsFor backend (reentryPoint? backend settings fragment) := by
  unfold reentryPoint?
  split
  · exact pure _
  · exact (inSession (.probeEntry _ _)).bind fun _ => pure _

/-! Finding out what an occurrence does makes no call on the graph. -/

/-- Looking for the next occurrence fails only where the trace is exhausted or the occurrence is
empty. -/
theorem nextOccurrence (walk : Walk) :
    FailsFor (σ := σ) backend (RecoveryM.nextOccurrence walk) := by
  intro state
  rw [ends_nextOccurrence]
  split
  · exact .exhausted _
  · split
    · exact .empty _
    · trivial

/-- Joining a key push does not fail. -/
theorem joinKeyPush (occurrence : Occurrence) (walk : Walk) :
    FailsFor backend (RecoveryM.joinKeyPush backend occurrence walk) := by
  refine (inSession (.noteAll _)).bind fun _ => ?_
  split
  · exact get.bind fun _ => pure _
  · exact pure _

/-- Reading an entry fails only at the end of the trace, or where its code cannot be lifted. -/
theorem inspectEntry (walk : Walk) : FailsFor backend (RecoveryM.inspectEntry backend walk) := by
  refine (nextOccurrence walk).bind fun (occurrence, walk) => ?_
  refine (joinKeyPush occurrence walk).bind fun (occurrence, walk) => ?_
  dsimp only
  split
  · exact fun _ => .empty _
  · refine (inSession (.lift _ _)).bind fun fragment => ?_
    split
    · exact (note _).bind fun _ => pure _
    · exact (modify _).bind fun _ => (note _).bind fun _ => pure _

/-- A handler is recognised unless its code cannot be lifted. -/
theorem recognise (occurrence : Occurrence) (range : HandlerRange) (isCached : Bool) :
    FailsFor backend (RecoveryM.recognise backend occurrence range isCached) := by
  refine (inSession (.lift _ _)).bind fun fragment => get.bind fun state => ?_
  refine (inSession (.classify _)).bind fun verdict => ?_
  split
  · split
    · exact (modify _).bind fun _ => pure _
    · exact pure _
  · exact pure _

/-- There is a verdict on a handler unless its code cannot be lifted. -/
theorem verdictOf (occurrence : Occurrence) (range : HandlerRange) :
    FailsFor backend (RecoveryM.verdictOf backend occurrence range) := by
  have looksUp : FailsFor (σ := σ) backend (cached? range) := fun _ => trivial
  refine looksUp.bind fun pattern? => ?_
  split
  · exact recognise _ _ _
  · refine get.bind fun state => ?_
    split
    · exact (note _).bind fun _ => pure _
    · exact (note _).bind fun _ => recognise _ _ _

/-- Reading a handler fails only at the end of the trace, or where its code cannot be lifted. -/
theorem inspectHandler (walk : Walk) :
    FailsFor backend (RecoveryM.inspectHandler backend walk) := by
  refine (nextOccurrence walk).bind fun (occurrence, walk) => ?_
  dsimp only
  split
  · exact pure _
  · refine (verdictOf _ _).bind fun verdict => ?_
    split
    · refine get.bind fun state => (inSession (.noteAll _)).bind fun _ => ?_
      split
      · exact pure _
      · exact (note _).bind fun _ => pure _
    · exact (note _).bind fun _ => pure _
    · exact (note _).bind fun _ => pure _
    · exact get.bind fun state => (modify _).bind fun _ => (note _).bind fun _ => pure _

/-- A walk is inspected without any call on the graph. -/
theorem inspect (walk : Walk) : FailsFor backend (RecoveryM.inspect backend walk) := by
  unfold RecoveryM.inspect
  split
  · exact inspectEntry walk
  · exact inspectHandler walk
  · exact pure _
  · exact fun _ => .unclassified _

/-- A fault with a cause outside the graph is excused whatever calls there are. -/
theorem excused {action : RecoveryM σ α} (fails : FailsFor backend action) (state : Recovery σ) :
    Ends action state (fun _ _ => True) (Excused backend calls) :=
  (fails state).imp (fun _ _ done => done) fun _ _ => .inr

end FailsFor

/-! Actions that do. -/

/-- Recording an instruction calls the graph to open the block and to append to it. -/
theorem record_excused {walk' : Walk} {find : Find} {middle : Recovery σ}
    (inspects : (RecoveryM.inspect backend walk).run.run state = (.ok (walk', some find), middle)) :
    Ends (record walk' find.instruction) middle (fun _ _ => True)
      (Excused backend (Calls backend settings walk state)) := by
  have opening : Ends (openBlock walk' find.instruction.position) middle (fun _ _ => True)
      (Excused backend (Calls backend settings walk state)) := by
    refine openBlock_ends middle (fun _ _ => trivial) (fun _ _ _ _ _ _ => trivial)
      (fun _ _ _ _ => trivial) fun fault claimed session fresh free present => .inl ?_
    exact ⟨_, claimed, .creates inspects fresh free, by rw [GraphCall.fault?, present]⟩
  rw [record, ends_bind]
  refine opening.ran.imp ?_ fun _ _ failed => failed.2
  rintro block? opened ⟨opens, -⟩
  cases block? with
  | none => trivial
  | some block =>
      simp only [note, SessionM.note, SessionM.noteAll, ends_bind, ends_inSession, ends_modify]
      refine ends_tryGraph _ (fun _ _ _ => trivial) fun fault missing => .inl ?_
      exact ⟨_, opened.graph, .appends inspects opens, by rw [GraphCall.fault?, missing]⟩

/-- Lifting a block fails if the call finds no block, or if its code cannot be lifted. -/
theorem liftBlockAt_excused {block : Position} (called : calls (.lifts block) state.graph) :
    Ends (liftBlockAt backend block) state (fun _ _ => True) (Excused backend calls) := by
  rw [liftBlockAt, ends_bind, ends_get]
  split
  · rename_i missing
    exact .inl ⟨_, _, called, by rw [GraphCall.fault?, missing]⟩
  · exact (FailsFor.inSession (.liftBlock _)).excused state

/-- Following a branch calls the graph to lift the block. -/
theorem executeJmp_excused {block : Position} (called : calls (.lifts block) state.graph)
    (walk : Walk) (occurrence : Occurrence) :
    Ends (executeJmp backend walk occurrence block) state (fun _ _ => True)
      (Excused backend calls) := by
  have clear : FailsFor (σ := σ) backend (setSelection .none) := .modify _
  rw [executeJmp, ends_bind]
  refine (liftBlockAt_excused called).imp (fun fragment lifted _ => ?_) fun _ _ excused => excused
  refine FailsFor.excused ?_ lifted
  dsimp only
  split
  · exact (FailsFor.continueBehind walk block).bind fun _ => clear
  · refine FailsFor.get.bind fun state => ?_
    split
    · exact (FailsFor.note _).bind fun _ => clear
    · exact (FailsFor.replay _ _).bind fun before => (FailsFor.fork before _ _ _ _).bind fun _ =>
        (FailsFor.fork before _ _ _ _).bind fun _ => clear
  · exact (FailsFor.note _).bind fun _ => clear

/-- Following an exit calls the graph to lift the block, and to append the call that the exit
turns out to be. -/
theorem executeExit_excused {recorded : Recovery σ} {find : Find} {block : Position}
    {restored : List String} (performs : Performs backend walk state find block recorded)
    (isExit : find.instruction.operation = .exit restored) :
    Ends (executeExit backend settings block find.instruction.position) recorded
      (fun _ _ => True) (Excused backend (Calls backend settings walk state)) := by
  rw [executeExit, ends_bind]
  refine (liftBlockAt_excused (.lifts performs (.inr ⟨_, isExit⟩))).ran.imp ?_
    fun _ _ failed => failed.2
  rintro fragment lifted ⟨lifts, -⟩
  split
  · rename_i target leads
    split
    · rw [leaveFor, ends_bind]
      refine ((FailsFor.reentering settings fragment).excused lifted).ran.imp ?_
        fun _ _ failed => failed.2
      rintro answer probed ⟨reenters, -⟩
      cases answer with
      | some address =>
          simp only [note, SessionM.note, SessionM.noteAll, enqueue, ends_bind, ends_inSession,
            ends_modify]
          refine ends_tryGraph _ (fun _ _ _ => trivial) fun fault missing => .inl ?_
          exact ⟨_, probed.graph, .returns performs isExit lifts leads reenters,
            by rw [GraphCall.fault?, missing]⟩
      | none =>
          dsimp only
          split
          · rw [ends_bind]
            exact ends_changeGraph _ fun _ => trivial
          · trivial
    · trivial
  · exact (FailsFor.note _).excused lifted

/-- The effect of an instruction fails only in the calls of its turn or for an outside cause. -/
theorem applyEffect_excused {recorded : Recovery σ} {find : Find} {block : Position}
    (performs : Performs backend walk state find block recorded) (walk' : Walk) :
    Ends (applyEffect backend settings walk' find.occurrence block find.instruction) recorded
      (fun _ _ => True) (Excused backend (Calls backend settings walk state)) := by
  unfold applyEffect
  split
  · exact (FailsFor.continueBehind walk' block).excused recorded
  · exact (FailsFor.reveal _).excused recorded
  · rename_i isJmp
    exact executeJmp_excused (.lifts performs (.inl isJmp)) walk' find.occurrence
  · exact (FailsFor.continueBehind walk' block).excused recorded
  · rename_i restored isExit
    exact executeExit_excused performs isExit
  · trivial

/-- A turn fails only for a cause outside the graph, unless one of its calls on the graph
fails. -/
theorem turn_fails (backend : Backend σ) (settings : Settings) (state : Recovery σ)
    (unfinished : walk.phase ≠ .finished) :
    Ends (turn backend settings walk) state (fun _ _ => True)
      (Excused backend (Calls backend settings walk state)) := by
  rw [turn_eq backend settings unfinished, ends_bind]
  refine ((FailsFor.inspect walk).excused state).ran.imp ?_ fun _ _ failed => failed.2
  rintro ⟨walk', _ | find⟩ middle ⟨inspects, -⟩
  · trivial
  · rw [afterInspection, ends_bind, enact, ends_bind]
    refine (record_excused inspects).ran.imp ?_ fun _ _ failed => failed.2
    rintro block? recorded ⟨puts, -⟩
    cases block? with
    | none => trivial
    | some block =>
        rw [ends_bind]
        exact (applyEffect_excused ⟨walk', middle, inspects, puts⟩ walk').imp
          (fun _ _ _ => trivial) fun _ _ excused => excused

end RecoveryM

/-! The calls of a run. -/

/-- A job that appends to blocks of the graph only makes no call that fails. -/
theorem Calls.fault?_eq_none {call : GraphCall} {graph : Graph}
    (called : Calls backend settings walk state call graph) (chronicled : state.graph.Chronicled)
    (owned : ∀ block, walk.block = some block → state.graph.Owns block) :
    call.fault? graph = none := by
  have appends : ∀ {graph : Graph} {block : Position} (instruction : Instruction),
      graph.Owns block → (GraphCall.appends block instruction).fault? graph = none := by
    rintro graph block instruction ⟨owner, found⟩
    obtain ⟨grown, grows⟩ := @Graph.appendInstruction_of_present _ _ instruction _ found
    rw [GraphCall.fault?, grows]
  have placed : ∀ {find block recorded}, Performs backend walk state find block recorded →
      recorded.graph.Owns block := by
    intro find block recorded performs
    obtain ⟨owner, found, -⟩ := performs.performed.put.endsWith
    exact ⟨owner, found⟩
  cases called with
  | creates inspects fresh free =>
      -- A position that has not been claimed owns no block yet.
      obtain ⟨inspected, -⟩ := (inspect_ends backend walk state).of_ok inspects
      rw [inspected.sameGraph] at free
      obtain ⟨created, creates⟩ := (chronicled.arrive _ _).creates_of_free free
      rw [GraphCall.fault?, creates]
  | @appends walk' find middle opened block inspects opens =>
      obtain ⟨inspected, ahead, -⟩ := (inspect_ends backend walk state).of_ok inspects
      obtain ⟨walker, rfl⟩ := ahead.sameJob
      refine appends find.instruction ?_
      have opening : Ends (openBlock { walk with walker } find.instruction.position) middle
          (fun block? after => ∀ block ∈ block?, after.graph.Owns block) fun _ _ => True := by
        apply openBlock_ends middle
        · rintro block own _ ⟨⟩
          exact inspected.sameGraph ▸ owned block own
        · rintro claimed created session fresh free creates _ ⟨⟩
          exact ⟨_, (Graph.block?_createBlock creates).trans (if_pos rfl)⟩
        · rintro skipped session fresh taken _ ⟨⟩
        · intros
          trivial
      exact opening.of_ok opens block rfl
  | lifts performs leads =>
      obtain ⟨owner, found⟩ := placed performs
      rw [GraphCall.fault?, found]
  | returns performs isExit lifts leads reenters =>
      have own := placed performs
      obtain ⟨session, rfl⟩ := (liftBlockAt_calls backend _ _).of_ok lifts
      obtain ⟨session, rfl⟩ := (reentering_calls backend settings _ _).of_ok reenters
      exact appends _ own

/-- The block that the running job appends to is there. -/
def Stage.OwnsBlock (stage : Stage σ) : Prop :=
  ∀ job walk block, stage.activity = .running job walk → walk.block = some block →
    stage.state.graph.Owns block

/-- The block of the running job stays there: a turn opens it or leaves all blocks where they are.
-/
theorem Advance.ownsBlock (advance : Advance backend settings stage stage')
    (ownsBlock : stage.OwnsBlock) : stage'.OwnsBlock := by
  intro job' walk' block running own
  cases advance with
  | launches queued allowed launched =>
      obtain ⟨steps, session, rfl, rfl⟩ := (launch_ends backend settings _ _).of_ok launched
      cases running
      cases own
  | @turns entries state after job walk walk' unfinished turned =>
      cases running
      have course := (turn_course backend settings state unfinished).of_ok turned
      have edits := ((turn_ends backend settings state unfinished).of_ok turned).1
      rcases course.opens own with before | ⟨-, opened⟩
      · exact edits.owns (ownsBlock _ _ block rfl before)
      · exact opened
  | stumbles | fails | completes => exact absurd running (Activity.settled_ne_running _ _ _)
  | requests | concludes => cases running

/-- The block of the running job is there at every moment of a run. -/
theorem Runs.ownsBlock (runs : Runs backend settings start stage) (ownsBlock : start.OwnsBlock) :
    stage.OwnsBlock := by
  induction runs with
  | refl => exact ownsBlock
  | tail _ advance inductionHypothesis => exact advance.ownsBlock inductionHypothesis

/-- After any recoveries, and at every moment of them, blocks lie exactly where positions have
been claimed, the log tells of each block once, and of a repeated claim only after the block that
was found. None of the calls that the running job makes on the graph in its next turn fails, so
that the turn fails only for a cause outside the graph. -/
theorem one_block_for_each_position (backend : Backend σ) (settings : Settings) (host : σ)
    (cache : Cache) (entries : List UInt64) :
    let start : Stage σ := ⟨.waiting, entries, .initial host cache⟩
    Runs backend settings start
        ⟨.waiting, [], recoverEach backend settings entries (.initial host cache)⟩ ∧
      ∀ stage, Runs backend settings start stage →
        (∀ position, position ∈ stage.state.graph.visited ↔ stage.state.graph.Owns position) ∧
        (∀ position,
          position ∈ createdIn stage.state.graph.log ↔ stage.state.graph.Owns position) ∧
        (createdIn stage.state.graph.log).Nodup ∧ SkipsFollow stage.state.graph.log ∧
        ∀ job walk, stage.activity = .running job walk →
          (∀ call graph, Calls backend settings walk stage.state call graph →
            call.fault? graph = none) ∧
          ∀ fault failed,
            (turn backend settings walk).run.run stage.state = (.error fault, failed) →
            Cause backend failed.session.host fault := by
  intro start
  refine ⟨runs_recoverEach entries _, fun stage runs => ?_⟩
  have chronicled : stage.state.graph.Chronicled := runs.chronicled Graph.chronicled_empty
  have ownsBlock : stage.OwnsBlock := by
    apply runs.ownsBlock
    rintro job walk block ⟨⟩
  refine ⟨chronicled.visited, chronicled.created, chronicled.distinct, chronicled.skips, ?_⟩
  intro job walk running
  have succeeds : ∀ call graph, Calls backend settings walk stage.state call graph →
      call.fault? graph = none := fun call graph called =>
    called.fault?_eq_none chronicled fun block own => ownsBlock job walk block running own
  refine ⟨succeeds, fun fault failed fails => ?_⟩
  by_cases finished : walk.phase = .finished
  · rw [turn, finished] at fails
    cases fails
  · rcases (turn_fails backend settings stage.state finished).of_error fails with
      ⟨call, graph, called, blamed⟩ | cause
    · cases (succeeds call graph called).symm.trans blamed
    · exact cause

section Witness

open Simulation

/-- The code with two entry routines, whose jump goes both ways to the same exit. -/
def joiningArms : Scenario :=
  { alternatingEntries with branches := [⟨0x104, [0x200, 0x200], none⟩] }

/-- The stages of its recovery. -/
def joiningStage (count : Nat) : Stage Host :=
  Stage.after joiningArms.backend {} alternatingStart count

/-- What is performed in a turn of its recovery: the block and the operation. -/
def joiningTurn (count : Nat) : Option (Position × Operation) :=
  ((joiningStage count).performs? joiningArms.backend).map fun (_, _, find, block, _) =>
    (block, find.instruction.operation)

set_option maxRecDepth 2000

/-- The second arm finds the block of the exit that the first one has opened, and the jump before
them finds its own block. -/
theorem joining_arms_share_block :
    (joiningStage 13).state.graph.log.map LogEntry.change =
        [.blockCreated ⟨0x10, 0x10⟩, .edgeLinked ⟨⟨0x10, 0x10⟩, ⟨0x30, 0x104⟩, .flow⟩,
          .blockCreated ⟨0x30, 0x104⟩, .edgeLinked ⟨⟨0x30, 0x104⟩, ⟨0x40, 0⟩, .flow⟩,
          .blockCreated ⟨0x40, 0⟩, .visitSkipped ⟨0x40, 0⟩] ∧
      (∃ earlier later entry, (joiningStage 13).state.graph.log = earlier ++ entry :: later ∧
        entry.change = .visitSkipped ⟨0x40, 0⟩ ∧ ⟨0x40, 0⟩ ∈ createdIn earlier) ∧
      ∃ job walk graph, (joiningStage 6).activity = .running job walk ∧
        Calls joiningArms.backend {} walk (joiningStage 6).state (.lifts ⟨0x30, 0x104⟩) graph ∧
        (GraphCall.lifts ⟨0x30, 0x104⟩).fault? graph = none := by
  have changes : (joiningStage 13).state.graph.log.map LogEntry.change =
      [.blockCreated ⟨0x10, 0x10⟩, .edgeLinked ⟨⟨0x10, 0x10⟩, ⟨0x30, 0x104⟩, .flow⟩,
        .blockCreated ⟨0x30, 0x104⟩, .edgeLinked ⟨⟨0x30, 0x104⟩, ⟨0x40, 0⟩, .flow⟩,
        .blockCreated ⟨0x40, 0⟩, .visitSkipped ⟨0x40, 0⟩] := by
    cbv
  have jumps : joiningTurn 6 = some (⟨0x30, 0x104⟩, .jmp) := by
    cbv
  obtain ⟨-, holds⟩ := one_block_for_each_position joiningArms.backend {} {} {} [0x10]
  refine ⟨changes, ?_, ?_⟩
  · obtain ⟨-, -, -, follow, -⟩ := holds _ (Stage.runs_after _ _ _ 13)
    have skipped : Change.visitSkipped ⟨0x40, 0⟩ ∈
        (joiningStage 13).state.graph.log.map LogEntry.change := by
      rw [changes]
      simp
    obtain ⟨entry, member, isSkip⟩ := List.mem_map.mp skipped
    obtain ⟨earlier, later, split⟩ := List.append_of_mem member
    exact ⟨earlier, later, entry, split, isSkip, follow earlier entry later _ split isSkip⟩
  · obtain ⟨⟨job, walk, find, block, recorded⟩, computed, facts⟩ := Option.map_eq_some_iff.mp jumps
    obtain ⟨rfl, isJmp⟩ := Prod.ext_iff.mp facts
    obtain ⟨running, performs⟩ := Stage.performs_of_performs? computed
    obtain ⟨-, -, -, -, succeeds⟩ := holds _ (Stage.runs_after _ _ _ 6)
    have called : Calls joiningArms.backend {} walk (joiningStage 6).state
        (.lifts ⟨0x30, 0x104⟩) recorded.graph := .lifts performs (.inl isJmp)
    exact ⟨job, walk, recorded.graph, running, called, (succeeds job walk running).1 _ _ called⟩

end Witness

end VmRecovery.Flow

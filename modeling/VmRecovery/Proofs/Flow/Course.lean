import VmRecovery.Proofs.Flow.Aftermath
import VmRecovery.Proofs.Flow.Inspection
import VmRecovery.Proofs.Flow.Stage

/-!
# The course of a turn

A turn finds nothing, or what it finds lies where another job has been, or it performs an
instruction: the instruction is put into a block and then has its effect. `turn_course` states
this of every turn, also of those that fail, and `Performs.spec` what is known of an instruction
that is performed.
-/

namespace VmRecovery.Flow

open Handler Machine RecoveryM Trace

variable {σ : Type} {backend : Backend σ} {settings : Settings} {walk walk' : Walk}
  {state recorded after : Recovery σ} {find : Find} {block : Position}

/-- A job comes to an instruction in a state and puts it into a block. The last state is the one
in which the instruction is about to have its effect. -/
def Performs (backend : Backend σ) (walk : Walk) (state : Recovery σ) (find : Find)
    (block : Position) (recorded : Recovery σ) : Prop :=
  ∃ walk' middle, (inspect backend walk).run.run state = (.ok (walk', some find), middle) ∧
    (record walk' find.instruction).run.run middle = (.ok (some block), recorded)

/-- What the running job of a stage performs in its next turn, with the state in which the
instruction is about to have its effect. -/
def Stage.performs? (backend : Backend σ) (stage : Stage σ) :
    Option (Job × Walk × Find × Position × Recovery σ) :=
  match stage.activity with
  | .running job walk =>
      match (inspect backend walk).run.run stage.state with
      | (.ok (walk', some find), middle) =>
          match (record walk' find.instruction).run.run middle with
          | (.ok (some block), recorded) => some (job, walk, find, block, recorded)
          | _ => none
      | _ => none
  | _ => none

/-- What is performed is computed. -/
theorem Stage.performs_of_performs? {stage : Stage σ} {job : Job}
    (computed : stage.performs? backend = some (job, walk, find, block, recorded)) :
    stage.activity = .running job walk ∧ Performs backend walk stage.state find block recorded := by
  unfold Stage.performs? at computed
  split at computed
  · rename_i running
    split at computed
    · rename_i inspects
      split at computed
      · rename_i puts
        cases computed
        exact ⟨running, _, _, inspects, puts⟩
      · cases computed
    · cases computed
  · cases computed

/-- How a turn ends: with the job as it goes on, unless the turn fails, and the state. -/
inductive Course (backend : Backend σ) (settings : Settings) (walk : Walk) (state : Recovery σ) :
    Option Walk → Recovery σ → Prop where
  /-- Nothing is found. -/
  | passes {walk? : Option Walk} {after : Recovery σ} (inspected : Inspected state after)
      (kept : after.saveArea = state.saveArea)
      (goesOn : ∀ walk' ∈ walk?, ∃ walker, walk' = { walk with walker }) :
      Course backend settings walk state walk? after
  /-- What is found cannot be put into a block. -/
  | stalls {find : Find} {middle : Recovery σ} {graph : Graph} {session : Session σ}
      (inspected : Inspected state middle)
      (reads : Reads backend state find middle.saveArea walk.phase)
      (stalled : Stalled walk find.instruction state.graph graph) :
      Course backend settings walk state none { middle with graph, session }
  /-- What is found lies where another job has been. -/
  | revisits {find : Find} {middle : Recovery σ} {graph : Graph} {session : Session σ}
      {walker : Walker} (inspected : Inspected state middle)
      (reads : Reads backend state find middle.saveArea walk.phase)
      (put : Recorded walk find.instruction state.graph none graph) :
      Course backend settings walk state
        (some { walk with walker, phase := phaseAfter settings .finished find.instruction })
        { middle with graph, session }
  /-- What is found is performed. -/
  | performs {find : Find} {block : Position} {recorded after : Recovery σ} {walk? : Option Walk}
      (performed : Performs backend walk state find block recorded)
      (follows : Aftermath block find.instruction recorded after)
      (goesOn : ∀ walk' ∈ walk?, ∃ walker, walk' = { walk with
        walker
        block := some block
        phase := phaseAfter settings walk.phase find.instruction }) :
      Course backend settings walk state walk? after

/-- What is known of an instruction that is performed. -/
structure Performed (backend : Backend σ) (walk : Walk) (state : Recovery σ) (find : Find)
    (block : Position) (recorded : Recovery σ) : Prop where
  sameQueue : recorded.queue = state.queue
  sameGrouping : recorded.grouping = state.grouping
  sameSelection : recorded.selection = state.selection
  reads : Reads backend state find recorded.saveArea walk.phase
  put : Recorded walk find.instruction state.graph (some block) recorded.graph

/-- Where a job is in its trace does not matter to the graph. -/
theorem Recorded.of_walker {walker : Walker} {instruction : Instruction} {graph grown : Graph}
    {block? : Option Position}
    (put : Recorded { walk with walker } instruction graph block? grown) :
    Recorded walk instruction graph block? grown := by
  cases put with
  | opens fresh free creates grows => exact .opens fresh free creates grows
  | appends own grows => exact .appends own grows
  | revisits fresh taken => exact .revisits fresh taken

theorem Stalled.of_walker {walker : Walker} {instruction : Instruction} {graph grown : Graph}
    (stalled : Stalled { walk with walker } instruction graph grown) :
    Stalled walk instruction graph grown := by
  cases stalled with
  | misses => exact .misses
  | claims fresh free present => exact .claims fresh free present

/-- An instruction that is performed was read off the occurrence ahead and put into a block. -/
theorem Performs.performed (performs : Performs backend walk state find block recorded) :
    Performed backend walk state find block recorded := by
  obtain ⟨walk', middle, inspects, puts⟩ := performs
  obtain ⟨inspected, ahead, reads⟩ := (inspect_ends backend walk state).of_ok inspects
  obtain ⟨walker, rfl⟩ := ahead.sameJob
  obtain ⟨graph, session, rfl, put⟩ := (record_ends middle).of_ok puts
  rw [inspected.sameGraph] at put
  exact ⟨inspected.sameQueue, inspected.sameGrouping, inspected.sameSelection, reads,
    put.of_walker⟩

/-- A turn that performs an instruction ends as the effect of that instruction does. -/
theorem ends_turn_of_effect {middle : Recovery σ} {done : Recovery σ → Prop}
    {failed : Fault → Recovery σ → Prop} (unfinished : walk.phase ≠ .finished)
    (inspects : (inspect backend walk).run.run state = (.ok (walk', some find), middle))
    (puts : (record walk' find.instruction).run.run middle = (.ok (some block), recorded))
    (effect : Ends (applyEffect backend settings walk' find.occurrence block find.instruction)
      recorded (fun _ => done) failed) :
    Ends (turn backend settings walk) state (fun _ => done) failed := by
  rw [turn_eq backend settings unfinished, ends_bind, ends_iff_of_ok inspects, afterInspection,
    enact, ends_bind, ends_bind, ends_iff_of_ok puts, ends_bind]
  exact effect

/-- Every turn takes one of the courses, whether it succeeds or fails. -/
theorem turn_course (backend : Backend σ) (settings : Settings) (state : Recovery σ)
    (unfinished : walk.phase ≠ .finished) :
    Ends (turn backend settings walk) state
      (fun walk' => Course backend settings walk state (some walk'))
      fun _ => Course backend settings walk state none := by
  rw [turn_eq backend settings unfinished, ends_bind]
  refine (inspect_ends backend walk state).ran.imp ?_ fun _ after => ?_
  · rintro ⟨walk', _ | find⟩ middle ⟨inspects, inspected, answered⟩
    · obtain ⟨⟨walker, rfl⟩, kept⟩ := answered
      refine .passes inspected kept fun walk' isNext => ?_
      exact ⟨walker.advance, (Option.mem_some.mp isNext).symm⟩
    · obtain ⟨ahead, reads⟩ := answered
      obtain ⟨walker, rfl⟩ := ahead.sameJob
      rw [afterInspection, enact, ends_bind, ends_bind]
      refine (record_ends middle).ran.imp ?_ ?_
      · rintro block? _ ⟨puts, graph, session, rfl, put⟩
        rw [inspected.sameGraph] at put
        cases block? with
        | none => exact .revisits inspected reads put.of_walker
        | some block =>
            rw [ends_bind]
            refine (applyEffect_follows backend settings _ _ _).imp ?_ ?_
            · intro _ after follows
              refine .performs ⟨_, _, inspects, puts⟩ follows fun walk' isNext => ?_
              exact ⟨walker.advance, (Option.mem_some.mp isNext).symm⟩
            · exact fun _ after follows => .performs ⟨_, _, inspects, puts⟩ follows (by simp)
      · rintro fault _ ⟨-, graph, session, rfl, stalled⟩
        rw [inspected.sameGraph] at stalled
        exact .stalls inspected reads stalled.of_walker
  · rintro ⟨-, inspected, kept⟩
    exact .passes inspected kept (by simp)

/-! The courses of a run. -/

/-- What a recovery keeps while no job takes a turn: jobs are requested and taken from the
queue. -/
structure Rests (state after : Recovery σ) : Prop where
  sameGraph : after.graph = state.graph
  sameSaveArea : after.saveArea = state.saveArea
  queued : ∀ job ∈ after.queue, job ∈ state.queue ∨ ∃ entry, job = .entering entry none

/-- An advance as far as the running job is concerned. -/
inductive Passage (backend : Backend σ) (settings : Settings) : Stage σ → Stage σ → Prop where
  | rests {stage stage' : Stage σ} (rests : Rests stage.state stage'.state)
      (idle : ∀ job walk, stage'.activity ≠ .running job walk) :
      Passage backend settings stage stage'
  | launches {entries : List UInt64} {state after : Recovery σ} {job : Job} {walker : Walker}
      (queued : job ∈ state.queue) (rests : Rests state after) :
      Passage backend settings ⟨.scheduling, entries, state⟩
        ⟨.running job
            { snapshot := job.snapshot.getD (backend.defaultSnapshot job.start)
              source := job.source
              walker
              phase := job.kind.initialPhase },
          entries, after⟩
  | turns {entries : List UInt64} {state after : Recovery σ} {job : Job} {walk walk' : Walk}
      (unfinished : walk.phase ≠ .finished)
      (course : Course backend settings walk state (some walk') after) :
      Passage backend settings ⟨.running job walk, entries, state⟩
        ⟨.running job walk', entries, after⟩
  | fails {entries : List UInt64} {state failed after : Recovery σ} {job : Job} {walk : Walk}
      {outcome : Except Fault Unit} (unfinished : walk.phase ≠ .finished)
      (course : Course backend settings walk state none failed)
      (accounted : Accounted failed after) :
      Passage backend settings ⟨.running job walk, entries, state⟩
        ⟨.settled outcome, entries, after⟩

theorem Advance.passage {stage stage' : Stage σ} (advance : Advance backend settings stage stage') :
    Passage backend settings stage stage' := by
  cases advance with
  | requests =>
      refine .rests ⟨rfl, rfl, fun job member => ?_⟩ (by simp)
      exact (List.mem_append.mp member).imp_right fun new => ⟨_, List.mem_singleton.mp new⟩
  | launches queued allowed launched =>
      obtain ⟨steps, session, rfl, rfl⟩ := (launch_ends backend settings _ _).of_ok launched
      exact .launches (queued ▸ List.mem_cons_self)
        ⟨rfl, rfl, fun job member => .inl (queued ▸ List.mem_cons_of_mem _ member)⟩
  | stumbles queued allowed launched settled =>
      obtain ⟨session, rfl⟩ := (launch_ends backend settings _ _).of_error launched
      obtain ⟨session, report, rfl⟩ := accounted_of_settled settled
      exact .rests ⟨rfl, rfl, fun job member => .inl (queued ▸ List.mem_cons_of_mem _ member)⟩
        (Activity.settled_ne_running _)
  | turns unfinished turned =>
      exact .turns unfinished ((turn_course backend settings _ unfinished).of_ok turned)
  | fails unfinished turned settled =>
      exact .fails unfinished ((turn_course backend settings _ unfinished).of_error turned)
        (accounted_of_settled settled)
  | completes finished settled =>
      obtain ⟨session, report, rfl⟩ := accounted_of_settled settled
      exact .rests ⟨rfl, rfl, fun _ => .inl⟩ (Activity.settled_ne_running _)
  | @concludes entries state exhausted =>
      obtain ⟨session, report, ends⟩ := accounted_conclude backend settings state
      rw [ends]
      exact .rests ⟨rfl, rfl, fun _ => .inl⟩ (by simp)

end VmRecovery.Flow

import VmRecovery.Proofs.Flow.Calls
import VmRecovery.Proofs.Flow.Tally

/-!
# Arriving where another job has been

A job whose first instruction lies at the position of a block ends there, whatever the
instruction is: its effect is left out, the graph gains the edge along which the job arrived and
an entry in its log, and the next turn settles the job (`revisit_adds_nothing`). Only what was
found out while the instruction was read stays changed.
-/

namespace VmRecovery.Flow

open Machine RecoveryM Trace

variable {σ : Type} {backend : Backend σ} {settings : Settings} {walk walk' : Walk}
  {instruction : Instruction} {find : Find} {state middle : Recovery σ}

/-! What an arrival leaves of the graph. -/

namespace Graph

variable {graph grown skipped : Graph} {source : Option Position} {position : Position}

/-- The edge along which control arrives at a position, unless the graph has it or control comes
from nowhere. -/
def arrival? (graph : Graph) (source : Option Position) (position : Position) : Option Edge :=
  match source with
  | none => none
  | some source =>
      let edge : Edge := { source, target := position, kind := .flow }
      if edge ∈ graph.edges then none else some edge

/-- Control has arrived at a position that had been claimed. -/
structure Revisited (graph grown : Graph) (source : Option Position) (position : Position) :
    Prop where
  sameBlocks : grown.blocks = graph.blocks
  sameVisited : grown.visited = graph.visited
  edges : grown.edges = graph.edges ++ (graph.arrival? source position).toList
  log : grown.log =
    graph.log ++
      ((graph.arrival? source position).toList.map fun edge =>
        ⟨.edgeLinked edge, graph.blocks.size, grown.edges.length⟩) ++
      [⟨.visitSkipped position, graph.blocks.size, grown.edges.length⟩]

theorem revisited_of_taken
    (taken : (graph.arrive source position).claim position = (false, skipped)) :
    graph.Revisited skipped source position := by
  obtain ⟨-, rfl⟩ := claim_eq_false taken
  cases source with
  | none => constructor <;> simp [arrive, record, arrival?]
  | some source =>
      by_cases known : (⟨source, position, .flow⟩ : Edge) ∈ graph.edges
      · constructor <;> simp [arrive, link, record, arrival?, known]
      · constructor <;> simp [arrive, link, record, arrival?, known]

end Graph

/-! What becomes of the job. -/

/-- The state after a job has been settled that finished, or failed for a reason that concerns no
other job. -/
def Recovery.settled (state : Recovery σ) : Option Fault → Recovery σ
  | none =>
      let notices := state.session.notices ++ [Notice.jobFinished]
      { state with
        session := { state.session with notices }
        report := { state.report with tasksFinished := state.report.tasksFinished + 1 } }
  | some fault =>
      let notices := state.session.notices ++ [Notice.jobFailed fault]
      { state with
        session := { state.session with notices }
        report := { state.report with tasksFailed := state.report.tasksFailed + 1 } }

/-- Why a job fails whose first instruction lies at the position of a block: if it is diagnosed
that no handler was recognised. Otherwise the job finishes. -/
def revisitFault? (settings : Settings) (instruction : Instruction) : Option Fault :=
  if settings.diagnostic = true ∧ instruction.operation = .unknown then
    some (.unclassified instruction.position)
  else none

namespace RecoveryM

/-- An instruction whose position has been claimed is put into no block, if the job has none
open. -/
theorem record_revisits (walk : Walk) (fresh : walk.block = none)
    (known : instruction.position ∈ state.graph.visited) :
    Ends (record walk instruction) state
      (fun block? after => block? = none ∧ ∃ graph session,
        after = { state with graph, session } ∧
        state.graph.Revisited graph walk.source instruction.position)
      fun _ _ => False := by
  have notFree : ∀ claimed,
      (state.graph.arrive walk.source instruction.position).claim instruction.position ≠
        (true, claimed) := by
    intro claimed free
    obtain ⟨new, -⟩ := Graph.claim_eq_true free
    exact new (by rwa [Graph.visited_arrive])
  rw [record, ends_bind]
  apply openBlock_ends state
  case isOpen =>
    intro block own
    cases fresh.symm.trans own
  case opened =>
    intro claimed created session _ free
    exact absurd free (notFree claimed)
  case skipped =>
    intro skipped session _ taken
    exact ⟨rfl, skipped, session, rfl, Graph.revisited_of_taken taken⟩
  case stalled =>
    intro fault claimed session _ free
    exact absurd free (notFree claimed)

/-- A job that has come to its end finds nothing. -/
theorem unfinished_of_inspects
    (inspects : (inspect backend walk).run.run state = (.ok (walk', some find), middle)) :
    walk.phase ≠ .finished := by
  intro finished
  simp only [inspect, finished] at inspects
  cases inspects

/-- A turn that finds an instruction at a claimed position, as the first one of its job, succeeds
and has no effect. -/
theorem turn_revisits (backend : Backend σ) (settings : Settings) (fresh : walk.block = none)
    (inspects : (inspect backend walk).run.run state = (.ok (walk', some find), middle))
    (known : find.instruction.position ∈ state.graph.visited) :
    Ends (turn backend settings walk) state
      (fun ended after => ended.phase = phaseAfter settings .finished find.instruction ∧
        state.graph.Revisited after.graph walk.source find.instruction.position ∧
        after.queue = state.queue ∧ after.selection = state.selection)
      fun _ _ => False := by
  obtain ⟨inspected, ahead, -⟩ := (inspect_ends backend walk state).of_ok inspects
  obtain ⟨walker, rfl⟩ := ahead.sameJob
  have put := record_revisits { walk with walker } fresh
    (inspected.sameGraph.symm ▸ known : find.instruction.position ∈ middle.graph.visited)
  rw [turn_eq backend settings (unfinished_of_inspects inspects), ends_bind,
    ends_iff_of_ok inspects, afterInspection, enact, ends_bind, ends_bind]
  refine put.imp ?_ fun _ _ impossible => impossible
  rintro _ _ ⟨rfl, graph, session, rfl, revisited⟩
  rw [inspected.sameGraph] at revisited
  exact ⟨rfl, revisited, inspected.sameQueue, inspected.sameSelection⟩

end RecoveryM

/-- A job that came to its end on a revisit is settled by the next advance. -/
theorem advance_settles {entries : List UInt64} {job : Job} {ended : Walk} {after : Recovery σ}
    (phase : ended.phase = phaseAfter settings .finished instruction) :
    Advance backend settings ⟨.running job ended, entries, after⟩
      ⟨.scheduling, entries, after.settled (revisitFault? settings instruction)⟩ := by
  by_cases diagnosed : settings.diagnostic = true ∧ instruction.operation = .unknown
  · have unclassified : ended.phase = .unclassified instruction.position := by
      simp [phase, phaseAfter, diagnosed]
    have turned : (turn backend settings ended).run.run after =
        (.error (.unclassified instruction.position), after) := by
      rw [turn, unclassified]
      rfl
    rw [revisitFault?, if_pos diagnosed]
    exact .fails (by simp [unclassified]) turned rfl
  · have finished : ended.phase = .finished := by
      rw [phase, phaseAfter, if_neg (by simpa using diagnosed)]
      split <;> rfl
    rw [revisitFault?, if_neg diagnosed]
    exact .completes finished rfl

/-- A running job with no block open that comes to an instruction at the position of a block adds
nothing but its arrival: blocks, claimed positions, queue and selected registers stay as they
are, and the graph gains the edge from the source of the job, unless it is there, and the entry
that the visit was skipped. The job ends at once. It fails if unrecognised handlers are diagnosed
and the instruction stands for one, and finishes otherwise. -/
theorem revisit_adds_nothing (backend : Backend σ) (settings : Settings) {host : σ}
    {cache : Cache} {entries : List UInt64} {stage : Stage σ} {job : Job}
    (runs : Runs backend settings ⟨.waiting, entries, .initial host cache⟩ stage)
    (running : stage.activity = .running job walk) (fresh : walk.block = none)
    (inspects : (inspect backend walk).run.run stage.state = (.ok (walk', some find), middle))
    (owned : stage.state.graph.Owns find.instruction.position) :
    ∃ ended after,
      Advance backend settings stage ⟨.running job ended, stage.entries, after⟩ ∧
      stage.state.graph.Revisited after.graph walk.source find.instruction.position ∧
      after.queue = stage.state.queue ∧ after.selection = stage.state.selection ∧
      (∃ unknownHandlers, after.report = { stage.state.report with unknownHandlers }) ∧
      Advance backend settings ⟨.running job ended, stage.entries, after⟩
        ⟨.scheduling, stage.entries, after.settled (revisitFault? settings find.instruction)⟩ := by
  have chronicled : stage.state.graph.Chronicled := runs.chronicled Graph.chronicled_empty
  have known := (chronicled.visited _).mpr owned
  have unfinished := unfinished_of_inspects inspects
  have revisits := turn_revisits backend settings fresh inspects known
  cases turned : (turn backend settings walk).run.run stage.state with
  | mk outcome after =>
      cases outcome with
      | error fault => exact (revisits.of_error turned).elim
      | ok ended =>
          obtain ⟨phase, revisited, sameQueue, sameSelection⟩ := revisits.of_ok turned
          have edits := ((turn_ends backend settings _ unfinished).of_ok turned).1
          refine ⟨ended, after, ?_, revisited, sameQueue, sameSelection, edits.report_eq,
            advance_settles phase⟩
          obtain ⟨activity, entries, state⟩ := stage
          cases running
          exact .turns unfinished turned

section Witness

open Simulation

/-- What the running job of a stage comes to in its next turn. -/
def Stage.finds? (backend : Backend σ) (stage : Stage σ) :
    Option (Job × Walk × Walk × Find × Recovery σ) :=
  match stage.activity with
  | .running job walk =>
      match (inspect backend walk).run.run stage.state with
      | (.ok (walk', some find), middle) => some (job, walk, walk', find, middle)
      | _ => none
  | _ => none

theorem Stage.inspects_of_finds? {stage : Stage σ} {job : Job}
    (computed : stage.finds? backend = some (job, walk, walk', find, middle)) :
    stage.activity = .running job walk ∧
      (inspect backend walk).run.run stage.state = (.ok (walk', some find), middle) := by
  unfold Stage.finds? at computed
  split at computed
  · rename_i running
    split at computed
    · rename_i inspects
      cases computed
      exact ⟨running, inspects⟩
    · cases computed
  · cases computed

/-- The code whose jump goes both ways to the same exit, with the exit taken for a jump. Behind a
jump no registers are selected, so that it is not recognised. -/
def unrecognisedArms : Scenario :=
  { joiningArms with lifts := ⟨0x40, none, some (jmpHandler 0x40)⟩ :: joiningArms.lifts }

/-- The stages of its recovery if unrecognised handlers are diagnosed. -/
def unrecognisedStage (count : Nat) : Stage Host :=
  Stage.after unrecognisedArms.backend { diagnostic := true } alternatingStart count

/-- What the running job comes to there: the block that it has open, its source, the position and
the operation, and whether the position has a block. -/
def unrecognisedFind (count : Nat) :
    Option (Option Position × Option Position × Position × Operation × Bool) :=
  ((unrecognisedStage count).finds? unrecognisedArms.backend).map fun (_, walk, _, find, _) =>
    (walk.block, walk.source, find.instruction.position, find.instruction.operation,
      ((unrecognisedStage count).state.graph.block? find.instruction.position).isSome)

set_option maxRecDepth 2000

/-- The second arm comes to the block of the first one. The edge to it is there already, and the
job fails. -/
theorem unrecognised_arm_revisits :
    ∃ job walk ended after,
      (unrecognisedStage 12).activity = .running job walk ∧ walk.block = none ∧
      (unrecognisedStage 12).state.graph.Owns ⟨0x40, 0⟩ ∧
      Advance unrecognisedArms.backend { diagnostic := true } (unrecognisedStage 12)
        ⟨.running job ended, (unrecognisedStage 12).entries, after⟩ ∧
      (unrecognisedStage 12).state.graph.Revisited after.graph (some ⟨0x30, 0x104⟩) ⟨0x40, 0⟩ ∧
      after.queue = (unrecognisedStage 12).state.queue ∧
      after.selection = (unrecognisedStage 12).state.selection ∧
      Advance unrecognisedArms.backend { diagnostic := true }
        ⟨.running job ended, (unrecognisedStage 12).entries, after⟩
        ⟨.scheduling, (unrecognisedStage 12).entries,
          after.settled (some (.unclassified ⟨0x40, 0⟩))⟩ := by
  have comes : unrecognisedFind 12 =
      some (none, some ⟨0x30, 0x104⟩, ⟨0x40, 0⟩, .unknown, true) := by
    cbv
  obtain ⟨⟨job, walk, walk', ⟨occurrence, ⟨position, size, operation⟩, pattern?⟩, middle⟩, computed,
    facts⟩ := Option.map_eq_some_iff.mp comes
  simp only [Prod.mk.injEq] at facts
  obtain ⟨fresh, fromJump, rfl, rfl, present⟩ := facts
  obtain ⟨running, inspects⟩ := Stage.inspects_of_finds? computed
  have owned : (unrecognisedStage 12).state.graph.Owns ⟨0x40, 0⟩ :=
    Option.isSome_iff_exists.mp present
  obtain ⟨ended, after, turns, revisited, sameQueue, sameSelection, -, settles⟩ :=
    revisit_adds_nothing unrecognisedArms.backend { diagnostic := true }
      (Stage.runs_after _ _ _ 12) running fresh inspects owned
  rw [fromJump] at revisited
  exact ⟨job, walk, ended, after, running, fresh, owned, turns, revisited, sameQueue,
    sameSelection, settles⟩

end Witness

end VmRecovery.Flow

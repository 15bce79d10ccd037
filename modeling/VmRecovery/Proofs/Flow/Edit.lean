import VmRecovery.Proofs.Flow.Graph
import VmRecovery.Proofs.Outcome
import Mathlib.Logic.Relation

/-!
# What a step of a job changes

Every step of a job changes the recovery by a sequence of edits, whether it succeeds or fails.
`Edit` lists them together with what is known when each is made: an instruction is appended to
the block of the job, and jobs are queued and native edges recorded only behind the instruction
that causes them. An action that makes nothing but edits is said to do so by `Makes`, which is
closed under sequencing, so an invariant of a recovery only has to be checked edit by edit.
-/

namespace VmRecovery.Flow

open Handler Machine Trace

/-- A job records the entry routine while it seeks it and handlers afterwards. -/
structure Phase.Records (phase : Phase) (instruction : Instruction) : Prop where
  isInit_iff : (∃ saved, instruction.operation = .init saved) ↔ phase = .seekingEntry
  ne_exitCall : ∀ target, instruction.operation ≠ .exitCall target

/-- The changes that a job makes to the graph. -/
inductive GraphEdit (walk : Walk) (graph : Graph) : Graph → Prop where
  /-- The first instruction of a job opens a block. -/
  | opens {instruction : Instruction} {claimed created grown : Graph}
      (fresh : walk.block = none) (recorded : walk.phase.Records instruction)
      (free : (graph.arrive walk.source instruction.position).claim instruction.position =
        (true, claimed))
      (creates : claimed.createBlock instruction.position = .ok created)
      (grows : created.appendInstruction instruction.position instruction = .ok grown) :
      GraphEdit walk graph grown
  /-- The first instruction of a job lies where another job has been before. -/
  | revisits {position : Position} {skipped : Graph} (fresh : walk.block = none)
      (taken : (graph.arrive walk.source position).claim position = (false, skipped)) :
      GraphEdit walk graph skipped
  /-- A block was present at a position that had not been claimed. -/
  | stalls {position : Position} {claimed : Graph} {fault : Fault} (fresh : walk.block = none)
      (free : (graph.arrive walk.source position).claim position = (true, claimed))
      (present : claimed.createBlock position = .error fault) : GraphEdit walk graph claimed
  | appends {block : Position} {instruction : Instruction} {grown : Graph}
      (own : walk.block = some block) (recorded : walk.phase.Records instruction)
      (grows : graph.appendInstruction block instruction = .ok grown) : GraphEdit walk graph grown
  /-- An exit turns out to be a call. -/
  | calls {block : Position} {instruction : Instruction} {restored : List String}
      {target : UInt64} {grown : Graph} (behind : graph.EndsWith block instruction)
      (isExit : instruction.operation = .exit restored)
      (grows : graph.appendInstruction block
        { position := instruction.position, size := 0, operation := .exitCall target } =
          .ok grown) :
      GraphEdit walk graph grown
  | leaves {block : Position} {instruction : Instruction} {restored : List String}
      {target : UInt64} (behind : graph.EndsWith block instruction)
      (isExit : instruction.operation = .exit restored) (isSet : target ≠ 0) :
      GraphEdit walk graph
        (graph.link { source := block, target := .ofNative target, kind := .native }).2

/-- What putting an instruction into a block does to the graph, by that block. There is none if
the position of the instruction was taken. -/
inductive Recorded (walk : Walk) (instruction : Instruction) (graph : Graph) :
    Option Position → Graph → Prop where
  | opens {claimed created grown : Graph} (fresh : walk.block = none)
      (free : (graph.arrive walk.source instruction.position).claim instruction.position =
        (true, claimed))
      (creates : claimed.createBlock instruction.position = .ok created)
      (grows : created.appendInstruction instruction.position instruction = .ok grown) :
      Recorded walk instruction graph (some instruction.position) grown
  | appends {block : Position} {grown : Graph} (own : walk.block = some block)
      (grows : graph.appendInstruction block instruction = .ok grown) :
      Recorded walk instruction graph (some block) grown
  | revisits {skipped : Graph} (fresh : walk.block = none)
      (taken : (graph.arrive walk.source instruction.position).claim instruction.position =
        (false, skipped)) :
      Recorded walk instruction graph none skipped

/-- What is left of the graph where an instruction cannot be put into a block. -/
inductive Stalled (walk : Walk) (instruction : Instruction) (graph : Graph) : Graph → Prop where
  /-- The block of the job is missing. -/
  | misses : Stalled walk instruction graph graph
  /-- A block was present at a position that had not been claimed. -/
  | claims {claimed : Graph} {fault : Fault} (fresh : walk.block = none)
      (free : (graph.arrive walk.source instruction.position).claim instruction.position =
        (true, claimed))
      (present : claimed.createBlock instruction.position = .error fault) :
      Stalled walk instruction graph claimed

namespace Recorded

variable {walk : Walk} {instruction : Instruction} {graph grown : Graph} {block? : Option Position}

/-- Putting an instruction that the job may record into a block is one edit. -/
theorem edit (put : Recorded walk instruction graph block? grown)
    (recorded : walk.phase.Records instruction) : GraphEdit walk graph grown := by
  cases put with
  | opens fresh free creates grows => exact .opens fresh recorded free creates grows
  | appends own grows => exact .appends own recorded grows
  | revisits fresh taken => exact .revisits fresh taken

/-- A block that an instruction was put into ends with it. -/
theorem endsWith {block : Position} (put : Recorded walk instruction graph (some block) grown) :
    grown.EndsWith block instruction := by
  cases put with
  | opens fresh free creates grows => exact Graph.endsWith_of_appendInstruction grows
  | appends own grows => exact Graph.endsWith_of_appendInstruction grows

end Recorded

/-- The changes that a job makes to the recovery. -/
inductive Edit {σ : Type} (walk : Walk) (state : Recovery σ) : Recovery σ → Prop where
  | graph {graph : Graph} (edit : GraphEdit walk state.graph graph) :
      Edit walk state { state with graph }
  /-- A collaborator was called, or a notice was given. -/
  | session (session : Session σ) : Edit walk state { state with session }
  | looksUp (range : HandlerRange) :
      Edit walk state { state with cache := (state.cache.lookup range).2 }
  | stores {range : HandlerRange} (pattern : Pattern)
      (absent : state.cache.patterns[range]? = none) :
      Edit walk state { state with cache := state.cache.insert range pattern }
  | selects (selection : Selection) : Edit walk state { state with selection }
  | locates (saveArea : UInt64) : Edit walk state { state with saveArea }
  | countsUnknown :
      Edit walk state
        { state with
          report := { state.report with unknownHandlers := state.report.unknownHandlers + 1 } }
  /-- A continuation is queued behind an entry or a branch. -/
  | resumes {block : Position} {instruction : Instruction} (snapshot : Snapshot)
      (behind : state.graph.EndsWith block instruction)
      (continues : (∃ saved, instruction.operation = .init saved) ∨
        instruction.operation = .jmp ∨ instruction.operation = .jmpConst) :
      Edit walk state { state with queue := state.queue ++ [.resuming snapshot block] }
  /-- The code behind a call is queued. -/
  | reenters {block : Position} {instruction : Instruction} {target : UInt64} (address : UInt64)
      (behind : state.graph.EndsWith block instruction)
      (isCall : instruction.operation = .exitCall target) :
      Edit walk state { state with queue := state.queue ++ [.entering address (some block)] }

/-- A sequence of edits of one job. -/
def Edits {σ : Type} (walk : Walk) : Recovery σ → Recovery σ → Prop :=
  Relation.ReflTransGen (Edit walk)

/-- Edits do not depend on where in its trace a job is. -/
theorem Edits.of_walker {σ : Type} {walk : Walk} {walker : Walker} {state after : Recovery σ}
    (edits : Edits { walk with walker } state after) : Edits walk state after := by
  refine Relation.ReflTransGen.mono ?_ _ _ edits
  intro state after edit
  cases edit with
  | graph edit =>
      refine .graph ?_
      cases edit with
      | opens fresh recorded free creates grows =>
          exact .opens fresh recorded free creates grows
      | revisits fresh taken => exact .revisits fresh taken
      | stalls fresh free present => exact .stalls fresh free present
      | appends own recorded grows =>
          exact .appends own recorded grows
      | calls behind isExit grows => exact .calls behind isExit grows
      | leaves behind isExit isSet => exact .leaves behind isExit isSet
  | session session => exact .session session
  | looksUp range => exact .looksUp range
  | stores pattern absent => exact .stores pattern absent
  | selects selection => exact .selects selection
  | locates saveArea => exact .locates saveArea
  | countsUnknown => exact .countsUnknown
  | resumes snapshot behind continues => exact .resumes snapshot behind continues
  | reenters address behind isCall => exact .reenters address behind isCall

/-- From every state whose graph is as described before it, an action makes edits only, and its
answer and the graph are as described after it. -/
def Makes {σ α : Type} (walk : Walk) (before : Graph → Prop) (action : RecoveryM σ α)
    (after : α → Graph → Prop) : Prop :=
  ∀ state, before state.graph →
    Ends action state (fun answer next => Edits walk state next ∧ after answer next.graph)
      fun _ next => Edits walk state next

namespace Makes

variable {σ α β : Type} {walk : Walk} {before : Graph → Prop}

/-- Two actions make edits one behind the other if the first one leaves the graph as the second
expects it. -/
theorem bind {action : RecoveryM σ α} {next : α → RecoveryM σ β} {between : α → Graph → Prop}
    {after : β → Graph → Prop} (first : Makes walk before action between)
    (second : ∀ answer, Makes walk (between answer) (next answer) after) :
    Makes walk before (action >>= next) after := by
  intro state holds
  rw [ends_bind]
  refine (first state holds).imp ?_ fun _ _ edits => edits
  rintro answer middle ⟨edits, reached⟩
  refine (second answer middle reached).imp ?_ fun _ _ further => edits.trans further
  exact fun _ _ further => ⟨edits.trans further.1, further.2⟩

/-- What is said of the graph afterwards may be weakened. -/
theorem imp {action : RecoveryM σ α} {after after' : α → Graph → Prop}
    (makes : Makes walk before action after)
    (onDone : ∀ answer graph, after answer graph → after' answer graph) :
    Makes walk before action after' :=
  fun state holds => (makes state holds).imp (fun _ _ done => ⟨done.1, onDone _ _ done.2⟩)
    fun _ _ edits => edits

theorem pure (answer : α) {after : α → Graph → Prop}
    (reached : ∀ graph, before graph → after answer graph) :
    Makes (σ := σ) walk before (Pure.pure answer) after :=
  fun state holds => ⟨.refl, reached state.graph holds⟩

theorem throw (fault : Fault) {after : α → Graph → Prop} :
    Makes (σ := σ) walk before (MonadExcept.throw fault) after :=
  fun _ _ => .refl

theorem get : Makes (σ := σ) walk before MonadState.get fun _ => before :=
  fun _ holds => ⟨.refl, holds⟩

/-- A collaborator makes no edit of the graph. -/
theorem inSession (action : SessionM σ α) :
    Makes walk before (RecoveryM.inSession action) fun _ => before := by
  intro state holds
  rw [RecoveryM.ends_inSession]
  unfold Ends
  split
  · exact ⟨.single (.session _), holds⟩
  · exact .single (.session _)

/-- A notice makes no edit of the graph. -/
theorem note (notice : Notice) :
    Makes (σ := σ) walk before (RecoveryM.note notice) fun _ => before :=
  inSession _

/-- A change of the state that is an edit and leaves the graph alone. -/
theorem change {change : Recovery σ → Recovery σ}
    (edit : ∀ state, before state.graph → Edit walk state (change state))
    (sameGraph : ∀ state, (change state).graph = state.graph) :
    Makes walk before (modify change) fun _ => before :=
  fun state holds => ⟨.single (edit state holds), (sameGraph state).symm ▸ holds⟩

end Makes

end VmRecovery.Flow

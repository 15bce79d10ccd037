import VmRecovery.Proofs.Flow.Course
import VmRecovery.Proofs.Flow.Growth
import VmRecovery.Proofs.Lists

/-!
# The shape of blocks

A block is an entry routine on its own, or a run of handlers in which only the last one may
branch or leave, and an exit may turn out to be a call. Every turn keeps blocks in this shape,
because a job records nothing before the entry routine that it seeks, and stops at the first
instruction that ends a block (`Course.shaped`).
-/

namespace VmRecovery.Flow

open Handler Machine RecoveryM Trace

variable {σ : Type} {backend : Backend σ} {settings : Settings} {walk : Walk} {block : Position}
  {instruction : Instruction}

/-- How the instructions of a block may end, behind those that go on in the block. -/
inductive Ending : List Instruction → Prop where
  | goesOn : Ending []
  | branches {last : Instruction} (isBranch : last.operation = .jmp ∨ last.operation = .jmpConst) :
      Ending [last]
  | leaves {last : Instruction} {restored : List String}
      (isExit : last.operation = .exit restored) : Ending [last]
  | calls {last call : Instruction} {restored : List String} {target : UInt64}
      (isExit : last.operation = .exit restored) (isCall : call.operation = .exitCall target)
      (samePosition : call.position = last.position) : Ending [last, call]

/-- An instruction behind which its block goes on: it is no entry, and it does not branch or
leave. -/
def GoesOn (instruction : Instruction) : Prop :=
  (∀ saved, instruction.operation ≠ .init saved) ∧ instruction.operation.isTerminal = false

/-- A block starts at its first instruction, and consists of an entry routine or of handlers of
which only the last ones end it. -/
inductive Block.Shaped (block : Block) : Prop where
  | entry {first : Instruction} {saved : List SavedValue} {address : UInt64}
      (only : block.instructions = [first]) (starts : block.start = first.position)
      (enters : first.operation = .init saved) (spilled : saved.length = 11)
      (lies : first.position = { native := address, vm := address }) : Shaped block
  | handlers {first : Instruction} {body tail : List Instruction}
      (split : block.instructions = body ++ tail)
      (starts : block.instructions.head? = some first ∧ block.start = first.position)
      (plain : ∀ instruction ∈ body, GoesOn instruction) (ends : Ending tail) :
      Shaped block

/-! What a job may record. -/

/-- An entry routine has spilled eleven values. -/
theorem length_saved_of_entry? {fragment : Ir.Fragment} {stackPointer : UInt64} {entry : Entry}
    (detected : fragment.entry? stackPointer = some entry) : entry.saved.length = 11 := by
  simp only [Ir.Fragment.entry?, Option.bind_eq_bind, Option.bind_eq_some_iff, Option.pure_def,
    Ir.Fragment.savedContext?, Option.ite_none_left_eq_some] at detected
  obtain ⟨saved, ⟨-, found⟩, saveArea, -, same⟩ := detected
  obtain rfl := Option.some.inj same
  exact (mapM_range_eq_some_iff.mp found).1

/-- An instruction that neither enters the virtual machine nor calls out of it goes on in its
block or ends it. -/
theorem goesOn_or_ending (notEntry : ∀ saved, instruction.operation ≠ .init saved)
    (notCall : ∀ target, instruction.operation ≠ .exitCall target) :
    GoesOn instruction ∨ Ending [instruction] := by
  cases operation : instruction.operation with
  | init saved => exact absurd operation (notEntry saved)
  | exitCall target => exact absurd operation (notCall target)
  | jmp => exact .inr (.branches (.inl operation))
  | jmpConst => exact .inr (.branches (.inr operation))
  | exit restored => exact .inr (.leaves operation)
  | _ => exact .inl ⟨notEntry, by rw [operation]; rfl⟩

theorem Reads.goesOn_or_ending {state : Recovery σ} {find : Find} {saveArea : UInt64}
    (reads : Reads backend state find saveArea .readingHandlers) :
    GoesOn find.instruction ∨ Ending [find.instruction] := by
  cases reads with
  | handler isPattern performed kept =>
      obtain ⟨operation, isOperation, same⟩ := operation?_of_instruction? performed
      have kinds := Pattern.ne_of_operation? isOperation
      exact Flow.goesOn_or_ending (fun saved => same ▸ kinds.1 saved)
        fun target => same ▸ kinds.2.1 target
  | unknown isUnknown kept =>
      rw [isUnknown]
      exact Flow.goesOn_or_ending (by simp) (by simp)

/-- The entry routine lies at a native address and has spilled eleven values. -/
theorem Reads.isEntry {state : Recovery σ} {find : Find} {saveArea : UInt64}
    (reads : Reads backend state find saveArea .seekingEntry) :
    ∃ address saved, find.instruction.operation = .init saved ∧ saved.length = 11 ∧
      find.instruction.position = { native := address, vm := address } := by
  cases reads with
  | entry lifted detected isEntry located =>
      rw [isEntry]
      exact ⟨_, _, rfl, length_saved_of_entry? detected, rfl⟩

/-- A job goes on as before behind an instruction only if that goes on in its block. -/
theorem goesOn_of_phaseAfter {phase next : Phase}
    (after : phaseAfter settings phase instruction = next)
    (active : next = .seekingEntry ∨ next = .readingHandlers) :
    GoesOn instruction ∧ phase = next := by
  unfold phaseAfter at after
  split at after
  · rcases active with rfl | rfl <;> cases after
  · split at after
    · rcases active with rfl | rfl <;> cases after
    · rename_i unending
      refine ⟨⟨fun saved isInit => unending (by rw [isInit]; rfl), ?_⟩, after⟩
      cases operation : instruction.operation <;> simp_all [endsJob, Operation.isTerminal]

/-- A finished job neither seeks an entry routine nor reads handlers any more. -/
theorem not_active_of_finished :
    ¬ (phaseAfter settings .finished instruction = .seekingEntry ∨
      phaseAfter settings .finished instruction = .readingHandlers) := by
  intro active
  have finished := (goesOn_of_phaseAfter rfl active).2
  rw [← finished] at active
  simp at active

/-! The blocks of a graph. -/

/-- All blocks start where they are and have their shape. -/
def Graph.Shaped (graph : Graph) : Prop :=
  ∀ position owner, graph.block? position = some owner → owner.start = position ∧ owner.Shaped

/-- A job has no block before it has found the entry routine, and the block that it reads
handlers for goes on. -/
structure Walk.Open (walk : Walk) (graph : Graph) : Prop where
  seeks : walk.phase = .seekingEntry → walk.block = none
  reads : walk.phase = .readingHandlers → ∀ block owner, walk.block = some block →
    graph.block? block = some owner → ∀ instruction ∈ owner.instructions, GoesOn instruction

/-- The block that an instruction was put into, with the instructions before it. -/
structure Extended (graph grown : Graph) (block : Position) (instruction : Instruction)
    (owner : Block) (body : List Instruction) : Prop where
  found : grown.block? block = some owner
  others : ∀ position, block ≠ position → grown.block? position = graph.block? position
  split : owner.instructions = body ++ [instruction]
  isStart : owner.start = block
  starts : ∃ first, owner.instructions.head? = some first ∧ owner.start = first.position
  plain : ∀ instruction ∈ body, GoesOn instruction

namespace Graph.Shaped

variable {graph grown : Graph}

theorem of_sameBlocks (shaped : graph.Shaped)
    (same : ∀ position, grown.block? position = graph.block? position) : grown.Shaped :=
  fun position owner found => shaped position owner ((same position).symm.trans found)

/-- A graph stays shaped if the one block that changes has its shape. -/
theorem of_block {owner : Block} (shaped : graph.Shaped)
    (others : ∀ position, block ≠ position → grown.block? position = graph.block? position)
    (found : grown.block? block = some owner) (isStart : owner.start = block)
    (isShaped : owner.Shaped) : grown.Shaped := by
  intro position owner' found'
  by_cases same : block = position
  · subst same
    obtain rfl := Option.some.inj (found.symm.trans found')
    exact ⟨isStart, isShaped⟩
  · exact shaped position owner' ((others position same).symm.trans found')

/-- An instruction extends the block of its job or is the first one of a new block. -/
theorem extended (shaped : graph.Shaped) (isOpen : walk.Open graph)
    (put : Recorded walk instruction graph (some block) grown)
    (active : walk.phase = .seekingEntry ∨ walk.phase = .readingHandlers) :
    ∃ owner body, Extended graph grown block instruction owner body ∧
      (walk.phase = .seekingEntry → body = []) := by
  cases put with
  | opens fresh free creates grows =>
      have opened := GraphEdit.opened_of_free free creates grows
      refine ⟨{ start := instruction.position, instructions := [instruction] }, [], ?_,
        fun _ => rfl⟩
      exact ⟨(opened.block? _).trans (if_pos rfl), fun position other =>
        (opened.block? _).trans (if_neg other), rfl, rfl, ⟨instruction, rfl, rfl⟩, by simp⟩
  | appends own grows =>
      have reading : walk.phase = .readingHandlers :=
        active.resolve_left fun seeking => by simp [isOpen.seeks seeking] at own
      obtain ⟨owner, found, -⟩ := Graph.appendInstruction_eq_ok grows
      have plain := isOpen.reads reading block owner own found
      obtain ⟨isStart, isShaped⟩ := shaped block owner found
      refine ⟨_, owner.instructions, ⟨(Graph.block?_appendInstruction found grows).trans
        (if_pos rfl), fun position other => (Graph.block?_appendInstruction found grows).trans
          (if_neg other), rfl, isStart, ?_, plain⟩, fun seeking => ?_⟩
      · cases isShaped with
        | entry only starts enters spilled lies =>
            exact absurd enters ((plain _ (only ▸ List.mem_singleton_self _)).1 _)
        | @handlers first body tail split starts plain ends =>
            exact ⟨first, by simp [List.head?_append, starts.1], starts.2⟩
      · cases reading.symm.trans seeking

end Graph.Shaped

namespace Extended

variable {graph grown : Graph} {owner : Block} {body : List Instruction}

/-- An entry routine is a block of its own. -/
theorem shaped_entry (extended : Extended graph grown block instruction owner [])
    {saved : List SavedValue} {address : UInt64} (enters : instruction.operation = .init saved)
    (spilled : saved.length = 11)
    (lies : instruction.position = { native := address, vm := address }) : owner.Shaped := by
  obtain ⟨first, isFirst, starts⟩ := extended.starts
  have only : owner.instructions = [instruction] := extended.split
  obtain rfl : instruction = first := by simpa [only] using isFirst
  exact .entry only starts enters spilled lies

/-- A block that is extended by a handler keeps its shape. -/
theorem shaped_handler (extended : Extended graph grown block instruction owner body)
    (ending : GoesOn instruction ∨ Ending [instruction]) : owner.Shaped := by
  obtain ⟨first, starts⟩ := extended.starts
  rcases ending with goesOn | ends
  · have split : owner.instructions = (body ++ [instruction]) ++ [] := by
      rw [extended.split, List.append_nil]
    refine .handlers split starts ?_ .goesOn
    intro other member
    rcases List.mem_append.mp member with old | new
    · exact extended.plain other old
    · exact List.mem_singleton.mp new ▸ goesOn
  · exact .handlers extended.split starts extended.plain ends

/-- The call that an exit turns out to be completes the block. -/
theorem shaped_call (extended : Extended graph grown block instruction owner body)
    {call : Instruction} {restored : List String} {target : UInt64}
    (isExit : instruction.operation = .exit restored) (isCall : call.operation = .exitCall target)
    (samePosition : call.position = instruction.position) :
    Block.Shaped { owner with instructions := owner.instructions ++ [call] } := by
  obtain ⟨first, isFirst, starts⟩ := extended.starts
  have split : owner.instructions ++ [call] = body ++ [instruction, call] := by
    rw [extended.split, List.append_assoc]
    rfl
  refine .handlers split ⟨?_, starts⟩ extended.plain (.calls isExit isCall samePosition)
  rw [List.head?_append, isFirst]
  rfl

end Extended

/-! What a turn does to the blocks. -/

/-- A performed instruction leaves all blocks shaped. -/
theorem Performed.shaped {state recorded after : Recovery σ} {find : Find}
    (performed : Performed backend walk state find block recorded)
    (shaped : state.graph.Shaped) (isOpen : walk.Open state.graph)
    (follows : Aftermath block find.instruction recorded after) : after.graph.Shaped := by
  have active := performed.reads.active
  obtain ⟨owner, body, extended, single⟩ := shaped.extended isOpen performed.put active
  have isShaped : owner.Shaped := by
    have reads := performed.reads
    rcases active with seeking | reading
    · rw [seeking] at reads
      obtain ⟨address, saved, enters, spilled, lies⟩ := reads.isEntry
      obtain rfl := single seeking
      exact extended.shaped_entry enters spilled lies
    · rw [reading] at reads
      exact extended.shaped_handler reads.goesOn_or_ending
  have recordedShaped : recorded.graph.Shaped :=
    shaped.of_block extended.others extended.found extended.isStart isShaped
  cases follows with
  | resumes resumes =>
      obtain ⟨session, selection, jobs, -, rfl⟩ := resumes
      exact recordedShaped
  | leaves isExit isSet =>
      exact recordedShaped.of_sameBlocks (Graph.block?_link _)
  | calls isExit grows =>
      have appended := fun position =>
        @Graph.block?_appendInstruction _ _ _ position _ _ extended.found grows
      refine recordedShaped.of_block (fun position other => (appended position).trans
        (if_neg other)) ((appended block).trans (if_pos rfl)) extended.isStart ?_
      exact extended.shaped_call isExit rfl rfl

/-- A job that reads on behind an instruction can put the next one into the same block. -/
theorem Performed.staysOpen {state recorded after : Recovery σ} {find : Find}
    (performed : Performed backend walk state find block recorded)
    (shaped : state.graph.Shaped) (isOpen : walk.Open state.graph)
    (follows : Aftermath block find.instruction recorded after) (walker : Walker) :
    Walk.Open
      { walk with
        walker
        block := some block
        phase := phaseAfter settings walk.phase find.instruction }
      after.graph where
  seeks seeking := by
    -- A job that has found the entry routine no longer seeks it.
    obtain ⟨⟨notInit, -⟩, phase⟩ := goesOn_of_phaseAfter seeking (.inl rfl)
    have reads := performed.reads
    rw [phase] at reads
    obtain ⟨address, saved, enters, -⟩ := reads.isEntry
    exact absurd enters (notInit saved)
  reads reading other owner' own found := by
    obtain ⟨goesOn, -⟩ := goesOn_of_phaseAfter reading (.inr rfl)
    obtain rfl := Option.some.inj own
    have notExit : ∀ restored, find.instruction.operation ≠ .exit restored := by
      intro restored isExit
      simpa [isExit, Operation.isTerminal] using goesOn.2
    obtain ⟨owner, body, extended, -⟩ :=
      shaped.extended isOpen performed.put performed.reads.active
    cases follows with
    | resumes resumes =>
        obtain ⟨session, selection, jobs, -, rfl⟩ := resumes
        obtain rfl := Option.some.inj (extended.found.symm.trans found)
        rw [extended.split]
        intro instruction member
        rcases List.mem_append.mp member with old | new
        · exact extended.plain instruction old
        · exact List.mem_singleton.mp new ▸ goesOn
    | leaves isExit isSet => exact absurd isExit (notExit _)
    | calls isExit grows => exact absurd isExit (notExit _)

/-- Every turn leaves all blocks shaped, and the job has the block that it needs. -/
theorem Course.shaped {state after : Recovery σ} {walk? : Option Walk}
    (course : Course backend settings walk state walk? after) (shaped : state.graph.Shaped)
    (isOpen : walk.Open state.graph) :
    after.graph.Shaped ∧ ∀ walk' ∈ walk?, walk'.Open after.graph := by
  cases course with
  | passes inspected kept goesOn =>
      rw [inspected.sameGraph]
      refine ⟨shaped, fun walk' isNext => ?_⟩
      obtain ⟨walker, rfl⟩ := goesOn walk' isNext
      exact ⟨isOpen.seeks, isOpen.reads⟩
  | stalls inspected reads stalled =>
      refine ⟨?_, by simp⟩
      cases stalled with
      | misses => exact shaped
      | claims fresh free present =>
          obtain ⟨-, rfl⟩ := Graph.claim_eq_true free
          exact shaped.of_sameBlocks fun position => Graph.block?_arrive _ _
  | revisits inspected reads put =>
      cases put with
      | revisits fresh taken =>
          obtain ⟨-, rfl⟩ := Graph.claim_eq_false taken
          refine ⟨shaped.of_sameBlocks fun position => Graph.block?_arrive _ _, ?_⟩
          intro walk' isNext
          obtain rfl := Option.mem_some.mp isNext
          exact ⟨fun _ => fresh, fun _ block owner own => by simp [fresh] at own⟩
  | performs performs follows goesOn =>
      refine ⟨performs.performed.shaped shaped isOpen follows, fun walk' isNext => ?_⟩
      obtain ⟨walker, rfl⟩ := goesOn walk' isNext
      exact performs.performed.staysOpen shaped isOpen follows walker

end VmRecovery.Flow

import VmRecovery.Proofs.Flow.Ownership

/-!
# One register pair for each block

A pop reveals a register pair, and it is recognised only if no other pair is selected. From then
on the pair stays selected as long as the job goes on, so all pops of a block reveal the same pair,
and from the first one on the instructions lie where the code register of the pair points
(`block_keeps_pair`).
-/

namespace VmRecovery.Flow

open Handler Machine RecoveryM Trace

variable {σ : Type} {backend : Backend σ} {settings : Settings} {start stage stage' : Stage σ}
  {walk : Walk} {state recorded after : Recovery σ} {find : Find} {block position : Position}
  {pair : RegisterPair} {job : Job}

/-! What a pop is read by. -/

/-- A selection adopts every pair that it admits. -/
theorem adopt_of_admits {selection : Selection} (admits : selection.admits pair = true) :
    selection.adopt pair = .ok (.of pair) := by
  obtain ⟨_ | selected⟩ := selection
  · rfl
  · obtain rfl : selected = pair := by simpa [Selection.admits] using admits
    simp [Selection.adopt, Selection.of]

/-- An instruction that is read by a pattern lies where the pattern has its code register, and the
pattern fits. -/
theorem fits_of_instruction? {pattern : Pattern} {occurrence : Occurrence} {selection : Selection}
    {decoder : Native.Decoder} {saveArea : UInt64} {instruction : Instruction}
    (performed : pattern.instruction? occurrence selection decoder saveArea = some instruction) :
    pattern.fits selection = true ∧
      instruction.position = occurrence.position (pattern.codeRegister? selection) := by
  unfold Pattern.instruction? at performed
  split at performed
  · rename_i fits
    obtain ⟨operation, -, rfl⟩ := Option.map_eq_some_iff.mp performed
    exact ⟨fits, rfl⟩
  · cases performed

/-- A pop is read by a pattern that reveals its pair. -/
theorem Reads.pattern_of_pop {saveArea offset : UInt64} {phase : Phase}
    (reads : Reads backend state find saveArea phase)
    (isPop : find.instruction.operation = .popReg offset pair) :
    ∃ pattern : Pattern, pattern.pair? = some pair ∧ pattern.fits state.selection = true ∧
      find.instruction.position =
        find.occurrence.position (pattern.codeRegister? state.selection) := by
  cases reads with
  | entry lifted detected isEntry located => simp [isEntry, entryInstruction] at isPop
  | unknown isUnknown kept => simp [isUnknown] at isPop
  | @handler pattern isPattern performed kept =>
      obtain ⟨operation, isOperation, same⟩ := operation?_of_instruction? performed
      obtain rfl : operation = .popReg offset pair := same.symm.trans isPop
      exact ⟨pattern, Pattern.pair?_of_popReg isOperation, fits_of_instruction? performed⟩

/-- A pop is performed only if its pair is not in conflict with the selected one. -/
theorem Reads.adopts {saveArea offset : UInt64} {phase : Phase}
    (reads : Reads backend state find saveArea phase)
    (isPop : find.instruction.operation = .popReg offset pair) :
    state.selection.adopt pair = .ok (.of pair) := by
  obtain ⟨pattern, reveals, fits, -⟩ := reads.pattern_of_pop isPop
  rw [Pattern.fits, reveals, Option.all_some] at fits
  exact adopt_of_admits fits

/-- A handler that is read while a pair is selected lies where the code register of the pair
points. -/
theorem Reads.position_eq {saveArea : UInt64}
    (reads : Reads backend state find saveArea .readingHandlers)
    (selected : state.selection = .of pair) :
    find.instruction.position = find.occurrence.position (some pair.code) := by
  cases reads with
  | unknown isUnknown kept =>
      rw [isUnknown, selected]
      rfl
  | @handler pattern isPattern performed kept =>
      obtain ⟨fits, lies⟩ := fits_of_instruction? performed
      rw [lies, Pattern.codeRegister?]
      cases revealed : pattern.pair? with
      | none => rw [selected]; rfl
      | some other =>
          rw [Pattern.fits, revealed, selected, Option.all_some] at fits
          obtain rfl : pair = other := by simpa [Selection.admits, Selection.of] using fits
          rfl

/-- A pop lies where the code register of its own pair points. -/
theorem Reads.position_of_pop {saveArea offset : UInt64} {phase : Phase}
    (reads : Reads backend state find saveArea phase)
    (isPop : find.instruction.operation = .popReg offset pair) :
    find.instruction.position = find.occurrence.position (some pair.code) := by
  obtain ⟨pattern, reveals, -, lies⟩ := reads.pattern_of_pop isPop
  rw [lies, Pattern.codeRegister?, reveals]

/-! What an instruction leaves selected. -/

/-- The occurrence that is performed lies ahead in the trace. -/
theorem Performs.handedOut (performs : Performs backend walk state find block recorded) :
    find.occurrence.steps ≠ [] := by
  obtain ⟨walk', middle, inspects, puts⟩ := performs
  obtain ⟨-, ahead, -⟩ := (inspect_ends backend walk state).of_ok inspects
  exact ahead.handedOut

/-- The selection behind an operation that goes on in its block. -/
def selectionAfter (operation : Operation) (selection : Selection) : Selection :=
  match operation with
  | .popReg _ pair => .of pair
  | _ => selection

/-- A turn that goes on in its block selects the pair of a pop, and leaves the selection alone
otherwise. -/
theorem Performs.selects (performs : Performs backend walk state find block recorded)
    (goesOn : GoesOn find.instruction) (unfinished : walk.phase ≠ .finished) :
    Ends (turn backend settings walk) state
      (fun _ after =>
        after.selection = selectionAfter find.instruction.operation state.selection)
      fun _ _ => True := by
  have performed := performs.performed
  obtain ⟨walk', middle, inspects, puts⟩ := performs
  apply ends_turn_of_effect unfinished inspects puts
  unfold applyEffect
  obtain ⟨notInit, notTerminal⟩ := goesOn
  split
  · rename_i saved isInit
    exact absurd isInit (notInit saved)
  · rename_i offset pair isPop
    have adopts := performed.reads.adopts isPop
    rw [← performed.sameSelection] at adopts
    simp [reveal, adopts, setSelection, isPop, selectionAfter]
  · rename_i isJmp
    simp [isJmp, Operation.isTerminal] at notTerminal
  · rename_i isJmp
    simp [isJmp, Operation.isTerminal] at notTerminal
  · rename_i isExit
    simp [isExit, Operation.isTerminal] at notTerminal
  · rename_i notPop _ _ _
    simp only [ends_pure]
    rw [performed.sameSelection]
    unfold selectionAfter
    split
    · rename_i isPop
      exact absurd isPop (notPop _ _)
    · rfl

/-! The instructions of a block. -/

/-- A pop among some instructions reveals a pair. -/
def Pops (instructions : List Instruction) (pair : RegisterPair) : Prop :=
  ∃ instruction ∈ instructions, ∃ offset, instruction.operation = .popReg offset pair

/-- A pair is revealed among some instructions or by the one behind them. -/
theorem pops_concat {instructions : List Instruction} {instruction : Instruction} :
    Pops (instructions ++ [instruction]) pair ↔
      Pops instructions pair ∨ ∃ offset, instruction.operation = .popReg offset pair := by
  simp only [Pops, List.mem_append, List.mem_singleton, or_and_right, exists_or, exists_eq_left]

/-- The occurrence that an instruction behind others in a block is read off in a stage. The call
that an exit turns out to be is read off the occurrence of the exit. -/
inductive ReadAt (backend : Backend σ) (stage : Stage σ) (block : Position)
    (earlier : List Instruction) : Instruction → Occurrence → Prop where
  | performed {job : Job} {walk : Walk} {find : Find} {recorded : Recovery σ} {owner : Block}
      (running : stage.activity = .running job walk)
      (performs : Performs backend walk stage.state find block recorded)
      (found : recorded.graph.block? block = some owner)
      (put : owner.instructions = earlier ++ [find.instruction]) :
      ReadAt backend stage block earlier find.instruction find.occurrence
  | called {job : Job} {walk : Walk} {find : Find} {recorded : Recovery σ} {owner : Block}
      {restored : List String} {target : UInt64}
      (running : stage.activity = .running job walk)
      (performs : Performs backend walk stage.state find block recorded)
      (found : recorded.graph.block? block = some owner)
      (put : owner.instructions = earlier)
      (isExit : find.instruction.operation = .exit restored) :
      ReadAt backend stage block earlier
        { position := find.instruction.position, size := 0, operation := .exitCall target }
        find.occurrence

/-- An instruction behind others in a block lies where the code register of a pair pointed when its
occurrence began, and it reveals no other pair. If the others reveal the pair, the instruction was
read while the pair was selected. -/
structure ReadUnder (backend : Backend σ) (settings : Settings) (start : Stage σ)
    (block : Position) (earlier : List Instruction) (instruction : Instruction)
    (pair : RegisterPair) : Prop where
  read : ∃ stage occurrence first, Runs backend settings start stage ∧
    ReadAt backend stage block earlier instruction occurrence ∧
    (Pops earlier pair → stage.state.selection = .of pair) ∧
    occurrence.steps.head? = some first ∧
    instruction.position.vm = (first.registers.read pair.code).getD 0
  noOther : ∀ offset other, instruction.operation = .popReg offset other → other = pair

/-- From the first pop on, every instruction was read under the pair of the pop. -/
def KeepsPair (backend : Backend σ) (settings : Settings) (start : Stage σ) (block : Position)
    (instructions : List Instruction) : Prop :=
  ∀ earlier instruction later pair, instructions = earlier ++ instruction :: later →
    Pops (earlier ++ [instruction]) pair →
    ReadUnder backend settings start block earlier instruction pair

namespace KeepsPair

/-- A block without instructions keeps any pair. -/
theorem nil : KeepsPair backend settings start block [] := by
  intro earlier instruction later pair split
  simp at split

/-- A block keeps its pair if it did without its last instruction, and that one was read under the
pair. -/
theorem concat {instructions : List Instruction} {instruction : Instruction}
    (keeps : KeepsPair backend settings start block instructions)
    (next : ∀ pair, Pops (instructions ++ [instruction]) pair →
      ReadUnder backend settings start block instructions instruction pair) :
    KeepsPair backend settings start block (instructions ++ [instruction]) := by
  intro earlier other later pair split pops
  cases later using List.reverseRecOn with
  | nil =>
      obtain ⟨rfl, same⟩ := List.append_inj' split rfl
      obtain rfl := List.singleton_inj.mp same
      exact next pair pops
  | append_singleton later last _ =>
      rw [← List.cons_append, ← List.append_assoc] at split
      obtain ⟨rfl, -⟩ := List.append_inj' split rfl
      exact keeps earlier other later pair rfl pops

/-- A block that keeps its pair did so before its last instruction. -/
theorem of_concat {instructions : List Instruction} {last : Instruction}
    (keeps : KeepsPair backend settings start block (instructions ++ [last])) :
    KeepsPair backend settings start block instructions := by
  intro earlier instruction later pair split
  refine keeps earlier instruction (later ++ [last]) pair ?_
  rw [split, List.append_assoc, List.cons_append]

/-- All pops reveal the same pair. -/
theorem unique {instructions : List Instruction}
    (keeps : KeepsPair backend settings start block instructions) {other : RegisterPair}
    (pops : Pops instructions pair) (popsOther : Pops instructions other) : pair = other := by
  induction instructions using List.reverseRecOn with
  | nil => simp [Pops] at pops
  | append_singleton instructions last inductionHypothesis =>
      have under := fun pair => keeps instructions last [] pair rfl
      rcases pops_concat.mp pops with before | ⟨offset, isPop⟩
      · rcases pops_concat.mp popsOther with beforeOther | ⟨offset, isPop⟩
        · exact inductionHypothesis keeps.of_concat before beforeOther
        · exact ((under pair pops).noOther offset other isPop).symm
      · exact (under other popsOther).noOther offset pair isPop

end KeepsPair

/-- An instruction is put behind the instructions that the block of its job has. -/
theorem Recorded.behind {graph grown : Graph} {instruction : Instruction}
    (put : Recorded walk instruction graph (some block) grown) :
    ∃ owner earlier, grown.block? block = some owner ∧
      owner.instructions = earlier ++ [instruction] ∧
      (earlier = [] ∨ ∃ former, walk.block = some block ∧ graph.block? block = some former ∧
        former.instructions = earlier) := by
  cases put with
  | opens fresh free creates grows =>
      have opened := (GraphEdit.opened_of_free free creates grows).block? instruction.position
      exact ⟨_, [], opened.trans (if_pos rfl), rfl, .inl rfl⟩
  | appends own grows =>
      obtain ⟨former, found, -⟩ := Graph.appendInstruction_eq_ok grows
      have grown := (Graph.block?_appendInstruction found grows).trans (if_pos rfl)
      exact ⟨_, former.instructions, grown, rfl, .inr ⟨former, own, found, rfl⟩⟩

/-- What holds of every stage of a run: the blocks keep their pairs, and the pair that the block of
the running job has revealed is selected. -/
structure Paired (backend : Backend σ) (settings : Settings) (start stage : Stage σ) : Prop where
  keeps : ∀ position owner, stage.state.graph.block? position = some owner →
    KeepsPair backend settings start position owner.instructions
  selected : ∀ job walk block owner pair, stage.activity = .running job walk →
    walk.phase = .readingHandlers → walk.block = some block →
    stage.state.graph.block? block = some owner → Pops owner.instructions pair →
    stage.state.selection = .of pair

/-- What is known of an instruction that is put behind others: if these reveal a pair it is
selected, and if the instruction reveals a pair it is not in conflict with it. -/
theorem Performs.under (performs : Performs backend walk state find block recorded)
    {earlier : List Instruction}
    (selected : ∀ pair, Pops earlier pair →
      walk.phase = .readingHandlers ∧ state.selection = .of pair)
    (pops : Pops (earlier ++ [find.instruction]) pair) :
    (∃ first, find.occurrence.steps.head? = some first ∧
      find.instruction.position.vm = (first.registers.read pair.code).getD 0) ∧
    ∀ offset other, find.instruction.operation = .popReg offset other → other = pair := by
  have reads := performs.performed.reads
  have lies : find.instruction.position = find.occurrence.position (some pair.code) := by
    rcases pops_concat.mp pops with before | ⟨offset, isPop⟩
    · obtain ⟨reading, isSelected⟩ := selected pair before
      rw [reading] at reads
      exact reads.position_eq isSelected
    · exact reads.position_of_pop isPop
  constructor
  · obtain ⟨first, rest, steps⟩ := List.exists_cons_of_ne_nil performs.handedOut
    refine ⟨first, by rw [steps]; rfl, ?_⟩
    rw [lies, Occurrence.position, steps]
    rfl
  · intro offset other isPop
    rcases pops_concat.mp pops with before | ⟨offset', isPop'⟩
    · have adopts := reads.adopts isPop
      rw [(selected pair before).2, Selection.adopt, Selection.of] at adopts
      simp only at adopts
      split at adopts
      · rename_i same
        exact same.symm
      · cases adopts
    · exact (Operation.popReg.inj (isPop.symm.trans isPop')).2

namespace Paired

/-- An instruction is put behind instructions whose pair is selected. -/
theorem puts (paired : Paired backend settings start stage)
    (isOpen : walk.Open stage.state.graph) (running : stage.activity = .running job walk)
    (performs : Performs backend walk stage.state find block recorded) :
    ∃ owner earlier, recorded.graph.block? block = some owner ∧
      owner.instructions = earlier ++ [find.instruction] ∧
      KeepsPair backend settings start block earlier ∧
      ∀ pair, Pops earlier pair →
        walk.phase = .readingHandlers ∧ stage.state.selection = .of pair := by
  have performed := performs.performed
  obtain ⟨owner, earlier, found, put, former⟩ := performed.put.behind
  refine ⟨owner, earlier, found, put, ?_, fun pair pops => ?_⟩
  · rcases former with rfl | ⟨former, own, present, rfl⟩
    · exact .nil
    · exact paired.keeps block former present
  · rcases former with rfl | ⟨former, own, present, rfl⟩
    · simp [Pops] at pops
    · have reading : walk.phase = .readingHandlers := by
        refine performed.reads.active.resolve_left fun seeking => ?_
        simp [isOpen.seeks seeking] at own
      exact ⟨reading, paired.selected job walk block former pair running reading own present pops⟩

/-- A block that an instruction is put into keeps its pair, whatever follows the instruction. -/
theorem performed (paired : Paired backend settings start stage)
    (runs : Runs backend settings start stage) (isOpen : walk.Open stage.state.graph)
    (running : stage.activity = .running job walk)
    (performs : Performs backend walk stage.state find block recorded)
    (follows : Aftermath block find.instruction recorded after) {owner : Block}
    (found : after.graph.block? position = some owner) :
    KeepsPair backend settings start position owner.instructions := by
  by_cases same : block = position
  · subst same
    obtain ⟨grown, earlier, present, put, keeps, selected⟩ := paired.puts isOpen running performs
    have keepsGrown : KeepsPair backend settings start block grown.instructions := by
      rw [put]
      refine keeps.concat fun pair pops => ?_
      obtain ⟨⟨first, isFirst, lies⟩, noOther⟩ := performs.under selected pops
      exact ⟨⟨stage, find.occurrence, first, runs, .performed running performs present put,
        fun before => (selected pair before).2, isFirst, lies⟩, noOther⟩
    cases follows with
    | resumes resumes =>
        obtain ⟨session, selection, jobs, -, rfl⟩ := resumes
        obtain rfl := Option.some.inj (present.symm.trans found)
        exact keepsGrown
    | leaves isExit isSet =>
        rw [Graph.block?_link, present] at found
        obtain rfl := Option.some.inj found
        exact keepsGrown
    | calls isExit grows =>
        rw [Graph.block?_appendInstruction present grows, if_pos rfl] at found
        obtain rfl := Option.some.inj found
        refine keepsGrown.concat fun pair pops => ?_
        have popsGrown := (pops_concat.mp pops).resolve_right (by simp)
        rw [put] at popsGrown
        have before := (pops_concat.mp popsGrown).resolve_right (by simp [isExit])
        obtain ⟨⟨first, isFirst, lies⟩, -⟩ := performs.under selected popsGrown
        exact ⟨⟨stage, find.occurrence, first, runs, .called running performs present rfl isExit,
          fun _ => (selected pair before).2, isFirst, lies⟩, by simp⟩
  · rw [follows.others same, performs.performed.put.others same] at found
    exact paired.keeps position owner found

/-- A job that reads on behind an instruction has the pair of its block selected. -/
theorem selects (paired : Paired backend settings start stage)
    (isOpen : walk.Open stage.state.graph) (running : stage.activity = .running job walk)
    (performs : Performs backend walk stage.state find block recorded)
    (follows : Aftermath block find.instruction recorded after)
    (goesOn : GoesOn find.instruction)
    (selects : after.selection =
      selectionAfter find.instruction.operation stage.state.selection)
    {owner : Block} (found : after.graph.block? block = some owner)
    (pops : Pops owner.instructions pair) : after.selection = .of pair := by
  obtain ⟨grown, earlier, present, put, -, selected⟩ := paired.puts isOpen running performs
  have same : after.graph.block? block = recorded.graph.block? block := by
    cases follows with
    | resumes resumes =>
        obtain ⟨session, selection, jobs, -, rfl⟩ := resumes
        rfl
    | leaves isExit isSet => exact Graph.block?_link _ _
    | calls isExit grows => simpa [isExit, Operation.isTerminal] using goesOn.2
  obtain rfl : grown = owner := Option.some.inj (present.symm.trans (same.symm.trans found))
  rw [put] at pops
  rw [selects]
  rcases pops_concat.mp pops with before | ⟨offset, isPop⟩
  · unfold selectionAfter
    split
    · rename_i offset other isPop
      rw [(performs.under selected pops).2 offset other isPop]
    · exact (selected pair before).2
  · rw [isPop, selectionAfter]

end Paired

/-- A turn leaves all blocks and the selection as they are, or it performs an instruction. -/
theorem Course.performs_or_same {walk? : Option Walk}
    (course : Course backend settings walk state walk? after) :
    ((∀ position, after.graph.block? position = state.graph.block? position) ∧
      after.selection = state.selection ∧
      ∀ walk' ∈ walk?, walk'.phase = .readingHandlers →
        walk.phase = .readingHandlers ∧ walk'.block = walk.block) ∨
    ∃ find block recorded, Performs backend walk state find block recorded ∧
      Aftermath block find.instruction recorded after ∧
      ∀ walk' ∈ walk?, walk'.phase = .readingHandlers →
        GoesOn find.instruction ∧ walk'.block = some block := by
  cases course with
  | passes inspected kept goesOn =>
      refine .inl ⟨fun position => by rw [inspected.sameGraph], inspected.sameSelection, ?_⟩
      intro walk' isNext reading
      obtain ⟨walker, rfl⟩ := goesOn walk' isNext
      exact ⟨reading, rfl⟩
  | stalls inspected reads stalled =>
      refine .inl ⟨fun position => ?_, inspected.sameSelection, by simp⟩
      cases stalled with
      | misses => rfl
      | claims fresh free present =>
          obtain ⟨-, rfl⟩ := Graph.claim_eq_true free
          exact Graph.block?_arrive _ _
  | revisits inspected reads put =>
      refine .inl ⟨fun position => ?_, inspected.sameSelection, ?_⟩
      · cases put with
        | revisits fresh taken =>
            obtain ⟨-, rfl⟩ := Graph.claim_eq_false taken
            exact Graph.block?_arrive _ _
      · rintro _ ⟨⟩ reading
        exact absurd (.inr reading) not_active_of_finished
  | performs performs follows goesOn =>
      refine .inr ⟨_, _, _, performs, follows, fun walk' isNext reading => ?_⟩
      obtain ⟨walker, rfl⟩ := goesOn walk' isNext
      exact ⟨(goesOn_of_phaseAfter reading (.inr rfl)).1, rfl⟩

namespace Paired

/-- Every block keeps its pair through a turn, also one that fails. -/
theorem course (paired : Paired backend settings start stage)
    (runs : Runs backend settings start stage) (isOpen : walk.Open stage.state.graph)
    (running : stage.activity = .running job walk) {walk? : Option Walk}
    (course : Course backend settings walk stage.state walk? after) {owner : Block}
    (found : after.graph.block? position = some owner) :
    KeepsPair backend settings start position owner.instructions := by
  rcases course.performs_or_same with ⟨same, -⟩ | ⟨find, block, recorded, performs, follows, -⟩
  · exact paired.keeps position owner ((same position).symm.trans found)
  · exact paired.performed runs isOpen running performs follows found

/-- Every block keeps its pair through a step of a run. -/
theorem advance (paired : Paired backend settings start stage)
    (runs : Runs backend settings start stage)
    (isOpen : ∀ job walk, stage.activity = .running job walk → walk.Open stage.state.graph)
    (advance : Advance backend settings stage stage') : Paired backend settings start stage' := by
  cases advance with
  | requests => exact ⟨paired.keeps, by simp⟩
  | launches queued allowed launched =>
      obtain ⟨steps, session, rfl, rfl⟩ := (launch_ends backend settings _ _).of_ok launched
      refine ⟨paired.keeps, ?_⟩
      rintro _ _ block owner pair ⟨⟩ reading own
      cases own
  | stumbles queued allowed launched settled =>
      obtain ⟨session, rfl⟩ := (launch_ends backend settings _ _).of_error launched
      obtain ⟨session, report, rfl⟩ := accounted_of_settled settled
      refine ⟨paired.keeps, fun job walk _ _ _ running => ?_⟩
      exact absurd running (Activity.settled_ne_running _ job walk)
  | turns unfinished turned =>
      have course := (turn_course backend settings _ unfinished).of_ok turned
      refine ⟨fun position owner => paired.course runs (isOpen _ _ rfl) rfl course, ?_⟩
      rintro _ walk' block owner pair ⟨⟩ reading own found pops
      rcases course.performs_or_same with
        ⟨same, sameSelection, goesOn⟩ | ⟨find, _, recorded, performs, follows, goesOn⟩
      · obtain ⟨reads, sameBlock⟩ := goesOn _ rfl reading
        exact sameSelection.trans (paired.selected _ _ block owner pair rfl reads
          (sameBlock.symm.trans own) ((same block).symm.trans found) pops)
      · obtain ⟨continues, isBlock⟩ := goesOn _ rfl reading
        obtain rfl := Option.some.inj (isBlock.symm.trans own)
        exact paired.selects (isOpen _ _ rfl) rfl performs follows continues
          ((performs.selects continues unfinished).of_ok turned) found pops
  | fails unfinished turned settled =>
      have course := (turn_course backend settings _ unfinished).of_error turned
      obtain ⟨session, report, rfl⟩ := accounted_of_settled settled
      refine ⟨fun position owner => paired.course runs (isOpen _ _ rfl) rfl course, ?_⟩
      exact fun job walk _ _ _ running => absurd running (Activity.settled_ne_running _ job walk)
  | completes finished settled =>
      obtain ⟨session, report, rfl⟩ := accounted_of_settled settled
      refine ⟨paired.keeps, fun job walk _ _ _ running => ?_⟩
      exact absurd running (Activity.settled_ne_running _ job walk)
  | concludes exhausted =>
      obtain ⟨session, report, ends⟩ := accounted_conclude backend settings _
      rw [ends]
      exact ⟨paired.keeps, by simp⟩

/-- At first there are no blocks. -/
theorem initial (backend : Backend σ) (settings : Settings) (host : σ) (cache : Cache)
    (entries : List UInt64) :
    Paired backend settings ⟨.waiting, entries, .initial host cache⟩
      ⟨.waiting, entries, .initial host cache⟩ where
  keeps := by
    intro position owner found
    simp [Recovery.initial, Graph.block?] at found
  selected := by simp

/-- Every block keeps its pair at every moment of a run. -/
theorem runs (paired : Paired backend settings start start)
    (shapely : Shapely backend settings start start) (runs : Runs backend settings start stage) :
    Paired backend settings start stage := by
  induction runs with
  | refl => exact paired
  | tail earlier step inductionHypothesis =>
      exact inductionHypothesis.advance earlier (shapely.runs earlier).isOpen step

end Paired

/-- After any recoveries, and at every moment of them, all pops of a block reveal the same pair.
From the first pop on, every instruction lies where the code register of that pair pointed when
its occurrence began, and behind the pop it was read while the pair was selected. A pop is
performed only where its pair can be selected. -/
theorem block_keeps_pair (backend : Backend σ) (settings : Settings) (host : σ) (cache : Cache)
    (entries : List UInt64) :
    let start : Stage σ := ⟨.waiting, entries, .initial host cache⟩
    Runs backend settings start
        ⟨.waiting, [], recoverEach backend settings entries (.initial host cache)⟩ ∧
      ∀ stage, Runs backend settings start stage →
        (∀ position owner, stage.state.graph.block? position = some owner →
          (∀ pair other, Pops owner.instructions pair → Pops owner.instructions other →
            pair = other) ∧
          ∀ earlier instruction later pair,
            owner.instructions = earlier ++ instruction :: later →
            Pops (earlier ++ [instruction]) pair →
            ReadUnder backend settings start position earlier instruction pair) ∧
        ∀ job walk find block recorded offset pair, stage.activity = .running job walk →
          Performs backend walk stage.state find block recorded →
          find.instruction.operation = .popReg offset pair →
          recorded.selection.adopt pair = .ok (.of pair) := by
  intro start
  refine ⟨runs_recoverEach entries _, fun stage runs => ⟨fun position owner found => ?_, ?_⟩⟩
  · have paired := (Paired.initial backend settings host cache entries).runs
      (.initial backend settings host cache entries) runs
    have keeps := paired.keeps position owner found
    exact ⟨fun pair other => keeps.unique, keeps⟩
  · intro job walk find block recorded offset pair running performs isPop
    have performed := performs.performed
    rw [performed.sameSelection]
    exact performed.reads.adopts isPop

section Witness

open Simulation

/-- The jump behind the pop is read while the pair of the pop is selected. -/
theorem pop_then_jump_keeps_pair :
    ∃ owner pop jump, (popThenJumpStage 7).state.graph.block? { native := 0x30, vm := 0x100 } =
        some owner ∧
      owner.instructions = [pop, jump] ∧ pop.operation = .popReg 0x10 revealed ∧
      jump.operation = .jmp ∧
      ReadUnder popThenJump.backend {} (popThenJumpStage 0) { native := 0x30, vm := 0x100 } [pop]
        jump revealed := by
  have jumped : popThenJumpBlock 7 = some [.popReg 0x10 revealed, .jmp] := by cbv
  obtain ⟨owner, found, operations⟩ := Option.map_eq_some_iff.mp jumped
  obtain ⟨pop, rest, split, isPop, others⟩ := List.map_eq_cons_iff.mp operations
  obtain ⟨jump, rfl, isJump⟩ := List.map_eq_singleton_iff.mp others
  obtain ⟨-, keeps⟩ := block_keeps_pair popThenJump.backend {} {} {} [0x10]
  have pops : Pops ([pop] ++ [jump]) revealed := ⟨pop, List.mem_cons_self, 0x10, isPop⟩
  exact ⟨owner, pop, jump, found, split, isPop, isJump,
    ((keeps _ (Stage.runs_after _ _ _ 7)).1 _ owner found).2 [pop] jump [] revealed split pops⟩

end Witness

end VmRecovery.Flow

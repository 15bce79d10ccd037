import VmRecovery.Proofs.Flow.Shape
import VmRecovery.Proofs.Simulation.Handlers
import VmRecovery.Simulation.Backend

/-!
# Blocks belong to jobs

A job appends only to the block that it has opened itself. No other job changes the block
afterwards, so the blocks of a run keep their shape whatever the order in which jobs are queued
and wherever they fail (`blocks_keep_shape`).
-/

namespace VmRecovery.Flow

open Handler Machine RecoveryM Trace

variable {σ : Type} {backend : Backend σ} {settings : Settings} {start stage stage' : Stage σ}
  {walk : Walk} {position block : Position} {instruction : Instruction}

/-! Whose block an instruction is put into. -/

/-- An instruction changes no block but the one it is put into. -/
theorem Recorded.others {graph grown : Graph}
    (put : Recorded walk instruction graph (some block) grown) (other : block ≠ position) :
    grown.block? position = graph.block? position := by
  cases put with
  | opens fresh free creates grows =>
      exact ((GraphEdit.opened_of_free free creates grows).block? position).trans (if_neg other)
  | appends own grows =>
      obtain ⟨owner, found, -⟩ := Graph.appendInstruction_eq_ok grows
      exact (Graph.block?_appendInstruction found grows).trans (if_neg other)

/-- Neither does its effect. -/
theorem Aftermath.others {state after : Recovery σ}
    (follows : Aftermath block instruction state after) (other : block ≠ position) :
    after.graph.block? position = state.graph.block? position := by
  cases follows with
  | resumes resumes =>
      obtain ⟨session, selection, jobs, -, rfl⟩ := resumes
      rfl
  | leaves isExit isSet => exact Graph.block?_link _ _
  | calls isExit grows =>
      obtain ⟨owner, found, -⟩ := Graph.appendInstruction_eq_ok grows
      exact (Graph.block?_appendInstruction found grows).trans (if_neg other)

theorem Aftermath.owns {state after : Recovery σ}
    (follows : Aftermath block instruction state after) (owned : state.graph.Owns position) :
    after.graph.Owns position := by
  cases follows with
  | resumes resumes =>
      obtain ⟨session, selection, jobs, -, rfl⟩ := resumes
      exact owned
  | leaves isExit isSet => rwa [Graph.Owns, Graph.block?_link]
  | calls isExit grows => exact (Graph.owns_appendInstruction grows).mpr owned

/-- The one block of the graph that a turn may change is that of the job. -/
theorem Course.changes {state after : Recovery σ} {walk? : Option Walk} {owner : Block}
    (course : Course backend settings walk state walk? after)
    (found : state.graph.block? position = some owner)
    (changed : after.graph.block? position ≠ some owner) : walk.block = some position := by
  cases course with
  | passes inspected kept goesOn => exact absurd (inspected.sameGraph ▸ found) changed
  | stalls inspected reads stalled =>
      cases stalled with
      | misses => exact absurd found changed
      | claims fresh free present =>
          obtain ⟨-, rfl⟩ := Graph.claim_eq_true free
          exact absurd ((Graph.block?_arrive _ _).trans found) changed
  | revisits inspected reads put =>
      cases put with
      | revisits fresh taken =>
          obtain ⟨-, rfl⟩ := Graph.claim_eq_false taken
          exact absurd ((Graph.block?_arrive _ _).trans found) changed
  | @performs find block recorded after walk? performs follows goesOn =>
      have put := performs.performed.put
      by_cases same : block = position
      · subst same
        generalize recorded.graph = grown at put
        cases put with
        | opens fresh free creates grows =>
            -- The block would have been there before it was opened.
            obtain ⟨-, rfl⟩ := Graph.claim_eq_true free
            obtain ⟨absent, -⟩ := Graph.createBlock_eq_ok creates
            rw [Graph.block?, Graph.blocks_arrive, ← Graph.block?, found] at absent
            cases absent
        | appends own grows => exact own
      · exact absurd ((follows.others same).trans ((put.others same).trans found)) changed

/-- The block that a job has after a turn is the one it had, or one that the turn has opened. -/
theorem Course.opens {state after : Recovery σ} {walk' : Walk}
    (course : Course backend settings walk state (some walk') after)
    (own : walk'.block = some block) :
    walk.block = some block ∨ ¬ state.graph.Owns block ∧ after.graph.Owns block := by
  cases course with
  | passes inspected kept goesOn =>
      obtain ⟨walker, rfl⟩ := goesOn walk' rfl
      exact .inl own
  | revisits inspected reads put => exact .inl own
  | @performs find block recorded after walk? performs follows goesOn =>
      obtain ⟨walker, rfl⟩ := goesOn walk' rfl
      obtain rfl := Option.some.inj own
      have put := performs.performed.put
      obtain ⟨owner, found, -⟩ := put.endsWith
      have owned : after.graph.Owns block := follows.owns ⟨owner, found⟩
      generalize recorded.graph = grown at put
      cases put with
      | opens fresh free creates grows =>
          obtain ⟨-, rfl⟩ := Graph.claim_eq_true free
          obtain ⟨absent, -⟩ := Graph.createBlock_eq_ok creates
          refine .inr ⟨fun ⟨owner, present⟩ => ?_, owned⟩
          rw [Graph.block?, Graph.blocks_arrive, ← Graph.block?, present] at absent
          cases absent
      | appends own grows => exact .inl own

/-! Runs. -/

/-- A job is running. -/
def Stage.IsRunning (stage : Stage σ) : Prop :=
  ∃ job walk, stage.activity = .running job walk

/-- A run throughout which the same job is running. -/
def Proceeds (backend : Backend σ) (settings : Settings) : Stage σ → Stage σ → Prop :=
  Relation.ReflTransGen fun stage stage' =>
    stage.IsRunning ∧ Advance backend settings stage stage' ∧ stage'.IsRunning

/-- The job that is running has opened the block at a position in one of its turns. -/
def OpenedByTask (backend : Backend σ) (settings : Settings) (start stage : Stage σ)
    (position : Position) : Prop :=
  ∃ before after, Runs backend settings start before ∧ before.IsRunning ∧
    Advance backend settings before after ∧ ¬ before.state.graph.Owns position ∧
    after.state.graph.Owns position ∧ Proceeds backend settings after stage ∧ stage.IsRunning

theorem OpenedByTask.advance (opened : OpenedByTask backend settings start stage position)
    (advance : Advance backend settings stage stage') (running : stage'.IsRunning) :
    OpenedByTask backend settings start stage' position := by
  obtain ⟨before, after, earlier, active, opening, new, owned, proceeds, still⟩ := opened
  exact ⟨before, after, earlier, active, opening, new, owned,
    proceeds.tail ⟨still, advance, running⟩, running⟩

/-- What holds of every stage of a run: the blocks have their shape, and the block of the running
job is one that it has opened. -/
structure Shapely (backend : Backend σ) (settings : Settings) (start stage : Stage σ) : Prop where
  shaped : stage.state.graph.Shaped
  isOpen : ∀ job walk, stage.activity = .running job walk → walk.Open stage.state.graph
  opened : ∀ job walk block, stage.activity = .running job walk → walk.block = some block →
    OpenedByTask backend settings start stage block

namespace Shapely

theorem advance (shapely : Shapely backend settings start stage)
    (runs : Runs backend settings start stage) (advance : Advance backend settings stage stage') :
    Shapely backend settings start stage' := by
  cases advance.passage with
  | rests rests idle =>
      exact ⟨rests.sameGraph ▸ shapely.shaped,
        fun job walk running => absurd running (idle job walk),
        fun job walk block running => absurd running (idle job walk)⟩
  | launches queued rests =>
      refine ⟨rests.sameGraph ▸ shapely.shaped, ?_, ?_⟩
      · rintro _ _ ⟨⟩
        exact ⟨fun _ => rfl, fun _ block owner own => by cases own⟩
      · rintro _ _ block ⟨⟩ own
        cases own
  | turns unfinished course =>
      obtain ⟨shaped, isOpen⟩ := course.shaped shapely.shaped (shapely.isOpen _ _ rfl)
      refine ⟨shaped, ?_, ?_⟩
      · rintro _ _ ⟨⟩
        exact isOpen _ rfl
      · rintro _ _ block ⟨⟩ own
        rcases course.opens own with before | ⟨new, owned⟩
        · exact (shapely.opened _ _ block rfl before).advance advance ⟨_, _, rfl⟩
        · exact ⟨_, _, runs, ⟨_, _, rfl⟩, advance, new, owned, .refl, ⟨_, _, rfl⟩⟩
  | fails unfinished course accounted =>
      obtain ⟨session, report, rfl⟩ := accounted
      refine ⟨(course.shaped shapely.shaped (shapely.isOpen _ _ rfl)).1, ?_, ?_⟩
      · exact fun job walk running => absurd running (Activity.settled_ne_running _ job walk)
      · exact fun job walk _ running => absurd running (Activity.settled_ne_running _ job walk)

/-- A block is changed only by the job that has opened it. -/
theorem changed (shapely : Shapely backend settings start stage)
    (advance : Advance backend settings stage stage') {owner : Block}
    (found : stage.state.graph.block? position = some owner)
    (changed : stage'.state.graph.block? position ≠ some owner) :
    OpenedByTask backend settings start stage position := by
  cases advance.passage with
  | rests rests idle => exact absurd (rests.sameGraph ▸ found) changed
  | launches queued rests => exact absurd (rests.sameGraph ▸ found) changed
  | turns unfinished course =>
      exact shapely.opened _ _ position rfl (course.changes found changed)
  | fails unfinished course accounted =>
      obtain ⟨session, report, rfl⟩ := accounted
      exact shapely.opened _ _ position rfl (course.changes found changed)

theorem runs (shapely : Shapely backend settings start start)
    (runs : Runs backend settings start stage) : Shapely backend settings start stage := by
  induction runs with
  | refl => exact shapely
  | tail earlier advance inductionHypothesis => exact inductionHypothesis.advance earlier advance

theorem initial (backend : Backend σ) (settings : Settings) (host : σ) (cache : Cache)
    (entries : List UInt64) :
    Shapely backend settings ⟨.waiting, entries, .initial host cache⟩
      ⟨.waiting, entries, .initial host cache⟩ where
  shaped := by
    intro position owner found
    simp [Recovery.initial, Graph.block?] at found
  isOpen := by simp
  opened := by simp

end Shapely

/-- After any recoveries, and at every moment of them, every block starts at its first instruction
and is an entry routine on its own, which has spilled eleven values, or a run of handlers of which
only the last ones end it. A block is changed only by the job that has opened it. -/
theorem blocks_keep_shape (backend : Backend σ) (settings : Settings) (host : σ) (cache : Cache)
    (entries : List UInt64) :
    let start : Stage σ := ⟨.waiting, entries, .initial host cache⟩
    Runs backend settings start
        ⟨.waiting, [], recoverEach backend settings entries (.initial host cache)⟩ ∧
      ∀ stage, Runs backend settings start stage →
        (∀ position owner, stage.state.graph.block? position = some owner →
          owner.start = position ∧ owner.Shaped) ∧
        ∀ stage' position owner, Advance backend settings stage stage' →
          stage.state.graph.block? position = some owner →
          stage'.state.graph.block? position ≠ some owner →
          OpenedByTask backend settings start stage position := by
  intro start
  refine ⟨runs_recoverEach entries _, fun stage runs => ?_⟩
  have shapely := (Shapely.initial backend settings host cache entries).runs runs
  exact ⟨shapely.shaped, fun stage' position owner advance => shapely.changed advance⟩

section Witness

open Native Simulation

/-- Native code that enters the virtual machine at a pop, behind which lies a jump. -/
def popThenJump : Scenario where
  stackPointer := 0x1000
  registers := { esi := 0x100, ebp := 0x800 }
  memory := []
  code :=
    [⟨0x10, some 0x30, []⟩, ⟨0x30, some 0x31, []⟩, ⟨0x31, some 0x20, []⟩, ⟨0x20, some 0x40, []⟩]
  failing := []
  lifts :=
    [⟨0x10, none, some (entryRoutine 0x10 0xfffffff0)⟩, ⟨0x20, none, some (jmpHandler 0x20)⟩,
      ⟨0x30, none, some (popHandler 0x30)⟩]
  blockLifts := []
  branches := []
  known := []
  decoder :=
    (Table.ofList
      [{ address := 0x10, mnemonic := .ret }, { address := 0x20, mnemonic := .ret },
        { address := 0x30, mnemonic := .mov,
          operands := [⟨.memory (.based "ESP"), 4⟩, ⟨.register "ECX", 4⟩] },
        { address := 0x31, mnemonic := .ret }]).decoder

/-- The stages of its recovery. -/
def popThenJumpStage (count : Nat) : Stage Host :=
  Stage.after popThenJump.backend {} ⟨.waiting, [0x10], .initial {} {}⟩ count

/-- The operations of the block that is opened at the pop. -/
def popThenJumpBlock (count : Nat) : Option (List Operation) :=
  ((popThenJumpStage count).state.graph.block? { native := 0x30, vm := 0x100 }).map fun owner =>
    owner.instructions.map Instruction.operation

/-- The jump is appended by the job that has opened the block with the pop. -/
theorem pop_then_jump_keeps_shape :
    popThenJumpBlock 6 = some [.popReg 0x10 revealed] ∧
      ∃ owner, (popThenJumpStage 7).state.graph.block? { native := 0x30, vm := 0x100 } =
          some owner ∧
        owner.instructions.map Instruction.operation = [.popReg 0x10 revealed, .jmp] ∧
        owner.Shaped ∧
        OpenedByTask popThenJump.backend {} (popThenJumpStage 0) (popThenJumpStage 6)
          { native := 0x30, vm := 0x100 } := by
  have popped : popThenJumpBlock 6 = some [.popReg 0x10 revealed] := by cbv
  have jumped : popThenJumpBlock 7 = some [.popReg 0x10 revealed, .jmp] := by cbv
  have advance : Advance popThenJump.backend {} (popThenJumpStage 6) (popThenJumpStage 7) :=
    Stage.advance_after (by cbv)
  obtain ⟨owner, found, isPop⟩ := Option.map_eq_some_iff.mp popped
  obtain ⟨owner', found', isJump⟩ := Option.map_eq_some_iff.mp jumped
  have changed : (popThenJumpStage 7).state.graph.block? { native := 0x30, vm := 0x100 } ≠
      some owner := by
    intro same
    obtain rfl := Option.some.inj (found'.symm.trans same)
    simp [isPop] at isJump
  obtain ⟨-, keeps⟩ := blocks_keep_shape popThenJump.backend {} {} {} [0x10]
  exact ⟨popped, owner', found', isJump, ((keeps _ (Stage.runs_after _ _ _ 7)).1 _ owner' found').2,
    (keeps _ (Stage.runs_after _ _ _ 6)).2 _ _ owner advance found changed⟩

end Witness

end VmRecovery.Flow

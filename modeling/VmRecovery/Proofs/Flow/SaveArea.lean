import VmRecovery.Proofs.Flow.Shape
import VmRecovery.Proofs.Handler.SaveSlot
import VmRecovery.Proofs.Simulation.Handlers
import VmRecovery.Simulation.Backend

/-!
# The save area that offsets are counted from

A block descends through queued continuations from an entry routine, which tells where the save
area of the block lies. A recovery, however, keeps one save area only, that of the entry routine
found last. The offset of a pushed or popped register is therefore counted from the save area of
its own entry routine exactly if no entry routine with another one has been found since
(`offset_counts_from_last_entry`), and a run in which the jobs of two entry routines alternate gets
it wrong (`foreign_entry_shifts_offset`).
-/

namespace VmRecovery.Flow

open Handler Machine Native RecoveryM Trace

variable {σ : Type} {backend : Backend σ} {settings : Settings} {start stage stage' : Stage σ}
  {walk : Walk} {job : Job} {block source : Position} {base : UInt64}

/-! What an offset is counted to. -/

/-- The place of the operand that addresses the save area, and the offset that was read there. -/
def saveSlot? : Operation → Option (Nat × UInt64)
  | .popReg offset _ => some (0, offset)
  | .pushReg offset => some (1, offset)
  | _ => none

/-- The addresses of the memory operands that stand at a place of the instructions that an
occurrence executes. -/
def accessed (decoder : Decoder) (occurrence : Occurrence) (place : Nat) : List UInt64 :=
  occurrence.steps.filterMap fun step => do
    let instruction ← decoder.decode step.address
    let (memory, _) ← instruction.memoryOperand? place
    memory.effectiveAddress step.registers

/-- A find accesses the slot of a virtual register at an address: there lies the operand that the
pattern of the find has its offset from. -/
def Find.Accesses (decoder : Decoder) (find : Find) (address : UInt64) : Prop :=
  ∃ pattern step memory, find.pattern? = some pattern ∧
    Pattern.Accesses find.occurrence decoder pattern step memory ∧
    memory.effectiveAddress step.registers = some address

/-- An operand that an executed instruction has at a place is one of those at that place. -/
theorem mem_accessed {occurrence : Occurrence} {decoder : Decoder} {anchor address : UInt64}
    {place : Nat} {step : Step} {instruction : Native.Instruction} {memory : MemoryOperand}
    {width : UInt8} (executed : occurrence.stepAt? anchor = some step)
    (decoded : decoder.decode anchor = some instruction)
    (operand : instruction.memoryOperand? place = some (memory, width))
    (effective : memory.effectiveAddress step.registers = some address) :
    address ∈ accessed decoder occurrence place := by
  have here : step.address = anchor := by simpa using List.find?_some executed
  refine List.mem_filterMap.mpr ⟨step, List.mem_of_find?_eq_some executed, ?_⟩
  simp [here, decoded, operand, effective]

/-- An offset is counted from the given save area to the address that the pattern accesses. -/
theorem slotOffset_of_operation? {pattern : Pattern} {occurrence : Occurrence} {decoder : Decoder}
    {saveArea offset : UInt64} {place : Nat} {operation : Operation}
    (performed : pattern.operation? occurrence decoder saveArea = some operation)
    (isSlot : saveSlot? operation = some (place, offset)) :
    ∃ step memory, Pattern.Accesses occurrence decoder pattern step memory ∧
      ∃ address ∈ accessed decoder occurrence place,
        memory.effectiveAddress step.registers = some address ∧
          offset = slotOffset saveArea address := by
  have reads : operation = .pushReg offset ∨ ∃ pair, operation = .popReg offset pair := by
    cases operation with
    | pushReg _ =>
        cases isSlot
        exact .inl rfl
    | popReg _ pair =>
        cases isSlot
        exact .inr ⟨pair, rfl⟩
    | _ => cases isSlot
  rcases Pattern.moves_of_operation? performed reads with
    ⟨size, load, rfl⟩ | ⟨size, store, pair, rfl⟩
  · obtain ⟨step, memory, address, accesses, effective, rfl⟩ :=
      Pattern.pushReg_operation?_iff.mp performed
    cases isSlot
    refine ⟨step, memory, accesses, address, ?_, effective, rfl⟩
    cases accesses with
    | push executed decoded operand => exact mem_accessed executed decoded operand effective
  · obtain ⟨step, memory, address, accesses, effective, rfl⟩ :=
      Pattern.popReg_operation?_iff.mp performed
    cases isSlot
    refine ⟨step, memory, accesses, address, ?_, effective, rfl⟩
    cases accesses with
    | pop executed decoded moves operand => exact mem_accessed executed decoded operand effective

/-- Offsets from two save areas to one address are equal only if the save areas are, up to 32
bits. -/
theorem slotOffset_inj {saveArea other address : UInt64} :
    slotOffset saveArea address = slotOffset other address ↔
      saveArea.toUInt32 = other.toUInt32 := by
  rw [slotOffset, slotOffset, UInt32.toUInt64_inj, UInt32.sub_right_inj]

/-! Where a job descends from. -/

/-- A find is an entry routine whose save area lies at a base. -/
def Recovers (backend : Backend σ) (state : Recovery σ) (find : Find) (base : UInt64) : Prop :=
  ∃ fragment entry, (backend.liftOccurrence find.occurrence state.session.host).1 = some fragment ∧
    fragment.entry? backend.defaultStackPointer = some entry ∧ entry.saveArea = base

/-- The entry routine that a block descends from has its save area at a base: the block is that
of the entry routine, or it was opened by a job that was queued behind a block of the lineage. -/
inductive Lineage (backend : Backend σ) (settings : Settings) (start : Stage σ) :
    Position → UInt64 → Prop where
  | enters {stage : Stage σ} {job : Job} {walk : Walk} {find : Find} {block : Position}
      {recorded : Recovery σ} {base : UInt64} (runs : Runs backend settings start stage)
      (running : stage.activity = .running job walk) (isEntry : job.kind = .entry)
      (performs : Performs backend walk stage.state find block recorded)
      (recovers : Recovers backend stage.state find base) :
      Lineage backend settings start block base
  | continues {stage : Stage σ} {job : Job} {walk : Walk} {find : Find} {block source : Position}
      {recorded : Recovery σ} {base : UInt64} (runs : Runs backend settings start stage)
      (running : stage.activity = .running job walk) (isContinuation : job.kind = .continuation)
      (behind : job.source = some source) (lineage : Lineage backend settings start source base)
      (performs : Performs backend walk stage.state find block recorded) :
      Lineage backend settings start block base

/-- A job continues a block whose lineage is known. -/
def Job.Descends (backend : Backend σ) (settings : Settings) (start : Stage σ) (job : Job) : Prop :=
  ∃ source, job.source = some source ∧ ∃ base, Lineage backend settings start source base

/-- An entry routine is found by its dataflow, and tells where its save area lies. -/
theorem Reads.recovers {state : Recovery σ} {find : Find} {saveArea : UInt64}
    (reads : Reads backend state find saveArea .seekingEntry) :
    Recovers backend state find saveArea := by
  cases reads with
  | entry lifted detected isEntry located => exact ⟨_, _, lifted, detected, located.symm⟩

/-- Handlers are read with the save area in force. -/
theorem Reads.kept {state : Recovery σ} {find : Find} {saveArea : UInt64}
    (reads : Reads backend state find saveArea .readingHandlers) : saveArea = state.saveArea := by
  cases reads with
  | handler isPattern performed kept => exact kept
  | unknown isUnknown kept => exact kept

/-- Save areas lie at 32-bit addresses. -/
theorem Recovers.toUInt64_toUInt32 {state : Recovery σ} {find : Find}
    (recovers : Recovers backend state find base) : base.toUInt32.toUInt64 = base := by
  obtain ⟨fragment, entry, -, detected, rfl⟩ := recovers
  simp only [Ir.Fragment.entry?, Ir.Fragment.saveArea?, Option.bind_eq_bind,
    Option.bind_eq_some_iff, Option.pure_def, Option.map_eq_some_iff] at detected
  obtain ⟨saved, -, saveArea, ⟨delta, -, rfl⟩, same⟩ := detected
  cases same
  rw [UInt32.toUInt32_toUInt64]

theorem Lineage.toUInt64_toUInt32 (lineage : Lineage backend settings start block base) :
    base.toUInt32.toUInt64 = base := by
  induction lineage with
  | enters runs running isEntry performs recovers => exact recovers.toUInt64_toUInt32
  | continues runs running isContinuation behind lineage performs inductionHypothesis =>
      exact inductionHypothesis

/-! Runs. -/

/-- What an effect queues continues its block, and the save area stays in force. -/
theorem Aftermath.queued {instruction : Instruction} {state after : Recovery σ}
    (follows : Aftermath block instruction state after) :
    after.saveArea = state.saveArea ∧ ∀ job ∈ after.queue, job ∈ state.queue ∨
      job.kind = .entry ∨ job.source = some block := by
  cases follows with
  | resumes resumes =>
      obtain ⟨session, selection, jobs, resuming, rfl⟩ := resumes
      refine ⟨rfl, fun job member => ?_⟩
      rcases List.mem_append.mp member with old | new
      · exact .inl old
      · obtain ⟨snapshot, rfl⟩ := resuming job new
        exact .inr (.inr rfl)
  | leaves isExit isSet => exact ⟨rfl, fun job member => .inl member⟩
  | calls isExit grows =>
      refine ⟨rfl, fun job member => ?_⟩
      rcases List.mem_append.mp member with old | new
      · exact .inl old
      · exact .inr (.inl (List.mem_singleton.mp new ▸ rfl))

/-- The save area in force changes only where an entry routine is found. -/
theorem Course.saveArea_eq_or {state after : Recovery σ} {walk? : Option Walk}
    (course : Course backend settings walk state walk? after) :
    after.saveArea = state.saveArea ∨
      walk.phase = .seekingEntry ∧ ∃ find, Recovers backend state find after.saveArea := by
  have found : ∀ {find saveArea}, Reads backend state find saveArea walk.phase →
      saveArea = state.saveArea ∨
        walk.phase = .seekingEntry ∧ ∃ find, Recovers backend state find saveArea := by
    intro find saveArea reads
    rcases reads.active with seeking | reading
    · rw [seeking] at reads
      exact .inr ⟨seeking, find, reads.recovers⟩
    · rw [reading] at reads
      exact .inl reads.kept
  cases course with
  | passes inspected kept goesOn => exact .inl kept
  | stalls inspected reads stalled => exact found reads
  | revisits inspected reads put => exact found reads
  | performs performs follows goesOn => exact follows.queued.1 ▸ found performs.performed.reads

/-- A turn queues only entries and jobs that continue the block it has performed an instruction
in. -/
theorem Course.queued {state after : Recovery σ} {walk? : Option Walk}
    (course : Course backend settings walk state walk? after) :
    ∀ job ∈ after.queue, job ∈ state.queue ∨ job.kind = .entry ∨
      ∃ find block recorded, job.source = some block ∧
        Performs backend walk state find block recorded := by
  intro job member
  cases course with
  | passes inspected kept goesOn => exact .inl (inspected.sameQueue ▸ member)
  | stalls inspected reads stalled => exact .inl (inspected.sameQueue ▸ member)
  | revisits inspected reads put => exact .inl (inspected.sameQueue ▸ member)
  | performs performs follows goesOn =>
      rcases follows.queued.2 job member with old | isEntry | behind
      · exact .inl (performs.performed.sameQueue ▸ old)
      · exact .inr (.inl isEntry)
      · exact .inr (.inr ⟨_, _, _, behind, performs⟩)

/-- A job that seeks the entry routine, or reads handlers, has done so before. -/
theorem Course.phase_eq {state after : Recovery σ} {walk' : Walk}
    (course : Course backend settings walk state (some walk') after)
    (active : walk'.phase = .seekingEntry ∨ walk'.phase = .readingHandlers) :
    walk.phase = walk'.phase := by
  cases course with
  | passes inspected kept goesOn =>
      obtain ⟨walker, rfl⟩ := goesOn walk' rfl
      rfl
  | revisits inspected reads put => exact absurd active not_active_of_finished
  | performs performs follows goesOn =>
      obtain ⟨walker, rfl⟩ := goesOn walk' rfl
      exact (goesOn_of_phaseAfter rfl active).2

/-- What holds of every stage of a run: continuations descend from an entry routine, and a job
that reads handlers is one of them. -/
structure Descended (backend : Backend σ) (settings : Settings) (start stage : Stage σ) :
    Prop where
  queued : ∀ job ∈ stage.state.queue, job.kind = .continuation →
    job.Descends backend settings start
  running : ∀ job walk, stage.activity = .running job walk →
    (job.kind = .continuation → job.Descends backend settings start) ∧
      (walk.phase = .seekingEntry → job.kind = .entry) ∧
      (walk.phase = .readingHandlers → job.kind = .continuation)
  located : stage.state.saveArea.toUInt32.toUInt64 = stage.state.saveArea

namespace Descended

/-- The block of an instruction that a job performs has a lineage. -/
theorem lineage {find : Find} {recorded : Recovery σ}
    (descended : Descended backend settings start stage) (runs : Runs backend settings start stage)
    (running : stage.activity = .running job walk)
    (performs : Performs backend walk stage.state find block recorded) :
    ∃ base, Lineage backend settings start block base := by
  obtain ⟨descends, seeks, reads⟩ := descended.running job walk running
  have found := performs.performed.reads
  rcases found.active with seeking | reading
  · rw [seeking] at found
    exact ⟨_, .enters runs running (seeks seeking) performs found.recovers⟩
  · obtain ⟨source, behind, base, lineage⟩ := descends (reads reading)
    exact ⟨base, .continues runs running (reads reading) behind lineage performs⟩

/-- What a turn leaves queued, and the save area that it leaves in force. -/
theorem course {after : Recovery σ} {walk? : Option Walk}
    (descended : Descended backend settings start stage) (runs : Runs backend settings start stage)
    (running : stage.activity = .running job walk)
    (course : Course backend settings walk stage.state walk? after) :
    (∀ job ∈ after.queue, job.kind = .continuation → job.Descends backend settings start) ∧
      after.saveArea.toUInt32.toUInt64 = after.saveArea := by
  constructor
  · intro other member isContinuation
    rcases course.queued other member with old | isEntry | ⟨find, block, recorded, behind, performs⟩
    · exact descended.queued other old isContinuation
    · cases isEntry.symm.trans isContinuation
    · exact ⟨block, behind, descended.lineage runs running performs⟩
  · rcases course.saveArea_eq_or with same | ⟨-, find, recovers⟩
    · exact same ▸ descended.located
    · exact recovers.toUInt64_toUInt32

theorem advance (descended : Descended backend settings start stage)
    (runs : Runs backend settings start stage) (advance : Advance backend settings stage stage') :
    Descended backend settings start stage' := by
  have rested : Rests stage.state stage'.state →
      (∀ job ∈ stage'.state.queue, job.kind = .continuation →
        job.Descends backend settings start) ∧
      stage'.state.saveArea.toUInt32.toUInt64 = stage'.state.saveArea := by
    intro rests
    refine ⟨fun job member isContinuation => ?_, rests.sameSaveArea ▸ descended.located⟩
    rcases rests.queued job member with old | ⟨entry, rfl⟩
    · exact descended.queued job old isContinuation
    · cases isContinuation
  cases advance.passage with
  | rests rests idle =>
      obtain ⟨queued, located⟩ := rested rests
      exact ⟨queued, fun job walk running => absurd running (idle job walk), located⟩
  | @launches entries state after job walker isQueued rests =>
      obtain ⟨queued, located⟩ := rested rests
      refine ⟨queued, ?_, located⟩
      rintro _ _ ⟨⟩
      refine ⟨descended.queued job isQueued, ?_, ?_⟩
      · cases kind : job.kind <;> simp [JobKind.initialPhase]
      · cases kind : job.kind <;> simp [JobKind.initialPhase]
  | turns unfinished course =>
      obtain ⟨queued, located⟩ := descended.course runs rfl course
      refine ⟨queued, ?_, located⟩
      rintro _ _ ⟨⟩
      obtain ⟨descends, seeks, reads⟩ := descended.running _ _ rfl
      exact ⟨descends, fun seeking => seeks ((course.phase_eq (.inl seeking)).trans seeking),
        fun reading => reads ((course.phase_eq (.inr reading)).trans reading)⟩
  | fails unfinished course accounted =>
      obtain ⟨session, report, rfl⟩ := accounted
      obtain ⟨queued, located⟩ := descended.course runs rfl course
      exact ⟨queued, fun job walk running =>
        absurd running (Activity.settled_ne_running _ job walk), located⟩

theorem runs (descended : Descended backend settings start start)
    (runs : Runs backend settings start stage) : Descended backend settings start stage := by
  induction runs with
  | refl => exact descended
  | tail earlier advance inductionHypothesis => exact inductionHypothesis.advance earlier advance

theorem initial (backend : Backend σ) (settings : Settings) (host : σ) (cache : Cache)
    (entries : List UInt64) :
    Descended backend settings ⟨.waiting, entries, .initial host cache⟩
      ⟨.waiting, entries, .initial host cache⟩ where
  queued := by simp [Recovery.initial]
  running := by simp
  located := rfl

/-- An advance changes the save area in force only where an entry job finds an entry routine. -/
theorem enters (descended : Descended backend settings start stage)
    (advance : Advance backend settings stage stage')
    (changed : stage'.state.saveArea ≠ stage.state.saveArea) :
    ∃ job walk find, stage.activity = .running job walk ∧ job.kind = .entry ∧
      Recovers backend stage.state find stage'.state.saveArea := by
  cases advance.passage with
  | rests rests idle => exact absurd rests.sameSaveArea changed
  | launches queued rests => exact absurd rests.sameSaveArea changed
  | turns unfinished course =>
      obtain ⟨seeking, find, recovers⟩ := course.saveArea_eq_or.resolve_left changed
      exact ⟨_, _, find, rfl, (descended.running _ _ rfl).2.1 seeking, recovers⟩
  | fails unfinished course accounted =>
      obtain ⟨session, report, rfl⟩ := accounted
      obtain ⟨seeking, find, recovers⟩ := course.saveArea_eq_or.resolve_left changed
      exact ⟨_, _, find, rfl, (descended.running _ _ rfl).2.1 seeking, recovers⟩

/-- From a save area that is known from an entry routine an offset counts the same as from the one
in force only if they are the same. -/
theorem slotOffset_eq_iff {address : UInt64} (descended : Descended backend settings start stage)
    (lineage : Lineage backend settings start source base) :
    slotOffset stage.state.saveArea address = slotOffset base address ↔
      stage.state.saveArea = base := by
  rw [slotOffset_inj]
  constructor
  · intro equal
    rw [← descended.located, equal, lineage.toUInt64_toUInt32]
  · exact fun equal => congrArg UInt64.toUInt32 equal

end Descended

/-- Only a job that reads handlers pushes or pops a register, and the offset is counted from the
save area in force to the address of the operand that the pattern accesses. -/
theorem Reads.counted {state : Recovery σ} {find : Find} {saveArea offset : UInt64} {place : Nat}
    (reads : Reads backend state find saveArea walk.phase)
    (isSlot : saveSlot? find.instruction.operation = some (place, offset)) :
    walk.phase = .readingHandlers ∧
      ∃ address ∈ accessed backend.decoder find.occurrence place,
        find.Accesses backend.decoder address ∧ offset = slotOffset state.saveArea address := by
  have reading : walk.phase = .readingHandlers := by
    refine reads.active.resolve_left fun seeking => ?_
    rw [seeking] at reads
    obtain ⟨address, saved, enters, -⟩ := reads.isEntry
    simp [enters, saveSlot?] at isSlot
  refine ⟨reading, ?_⟩
  rw [reading] at reads
  cases reads with
  | unknown isUnknown kept => simp [isUnknown, saveSlot?] at isSlot
  | handler isPattern performed kept =>
      obtain ⟨operation, isOperation, same⟩ := operation?_of_instruction? performed
      obtain ⟨step, memory, accesses, address, member, effective, counted⟩ :=
        slotOffset_of_operation? isOperation (same ▸ isSlot)
      exact ⟨address, member, ⟨_, step, memory, isPattern, accesses, effective⟩, counted⟩

/-- The save area in force is that of the entry routine found last: an advance changes it only
where an entry job finds an entry routine. The offset of a pushed or popped register is counted
from it, up to the address of the operand that the pattern accesses. The job that performs the push
or the pop descends from an entry routine, and the offset is counted from the save area of that one
if and only if it is the one in force. -/
theorem offset_counts_from_last_entry (backend : Backend σ) (settings : Settings) (host : σ)
    (cache : Cache) (entries : List UInt64) :
    let start : Stage σ := ⟨.waiting, entries, .initial host cache⟩
    ∀ stage, Runs backend settings start stage →
      (∀ stage', Advance backend settings stage stage' →
        stage'.state.saveArea ≠ stage.state.saveArea →
        ∃ job walk find, stage.activity = .running job walk ∧ job.kind = .entry ∧
          Recovers backend stage.state find stage'.state.saveArea) ∧
      ∀ job walk find block recorded place offset, stage.activity = .running job walk →
        Performs backend walk stage.state find block recorded →
        saveSlot? find.instruction.operation = some (place, offset) →
        ∃ address ∈ accessed backend.decoder find.occurrence place,
          find.Accesses backend.decoder address ∧
          offset = slotOffset stage.state.saveArea address ∧
          job.Descends backend settings start ∧
          ∀ source base, job.source = some source → Lineage backend settings start source base →
            (offset = slotOffset base address ↔ stage.state.saveArea = base) := by
  intro start stage runs
  have descended := (Descended.initial backend settings host cache entries).runs runs
  refine ⟨fun stage' advance changed => descended.enters advance changed, ?_⟩
  intro job walk find block recorded place offset running performs isSlot
  obtain ⟨descends, -, reads⟩ := descended.running job walk running
  obtain ⟨reading, address, member, accesses, rfl⟩ := performs.performed.reads.counted isSlot
  refine ⟨address, member, accesses, rfl, descends (reads reading), ?_⟩
  intro source base behind lineage
  exact descended.slotOffset_eq_iff lineage

section Witness

open Simulation

/-- Native code with two entry routines, at `0x10` and at `0x11`. The first one runs a pop and a
jump that goes two ways: to an exit that calls the second one, and to a computed jump to a pop. -/
def alternatingEntries : Scenario :=
  let dispatch : List Effect := [.load "EIP" "ESI" 0 (some 0x99), .add "ESI" 4]
  { stackPointer := 0x1000
    registers := { ebp := 0x800 }
    memory :=
      [(0x100, 0x30), (0x104, 0x20), (0x200, 0x40), (0x300, 0x50), (0x304, 0x30), (0x400, 0x99)]
    code :=
      [⟨0x10, none, .set "ESI" 0x100 :: dispatch⟩, ⟨0x11, none, .set "ESI" 0x400 :: dispatch⟩,
        ⟨0x20, none, .load "ESI" "EBP" 0 (some 0x400) :: dispatch⟩, ⟨0x30, some 0x31, []⟩,
        ⟨0x31, none, dispatch⟩, ⟨0x40, some 0x99, []⟩, ⟨0x50, none, dispatch⟩]
    failing := []
    lifts :=
      [⟨0x10, none, some (entryRoutine 0x10 0xfffffff0)⟩,
        ⟨0x11, none, some (entryRoutine 0x11 0xffffffe0)⟩,
        ⟨0x20, none, some (jmpHandler 0x20)⟩, ⟨0x30, none, some (popHandler 0x30)⟩,
        ⟨0x40, none, some (exitHandler 0x40)⟩, ⟨0x50, none, some (jmpConstHandler 0x50)⟩]
    blockLifts := []
    branches := [⟨0x104, [0x200, 0x300], none⟩, ⟨0, [0x7777], some 0x11⟩]
    known := []
    decoder :=
      (Table.ofList
        [{ address := 0x10, mnemonic := .ret }, { address := 0x11, mnemonic := .ret },
          { address := 0x20, mnemonic := .ret },
          { address := 0x30, mnemonic := .mov,
            operands := [⟨.memory (.based "ESP"), 4⟩, ⟨.register "ECX", 4⟩] },
          { address := 0x31, mnemonic := .ret }, { address := 0x40, mnemonic := .ret },
          { address := 0x50, mnemonic := .ret }]).decoder }

/-- The start of its recovery. -/
def alternatingStart : Stage Host :=
  ⟨.waiting, [0x10], .initial {} {}⟩

/-- The stages of its recovery. -/
def alternatingStage (count : Nat) : Stage Host :=
  Stage.after alternatingEntries.backend {} alternatingStart count

/-- What is performed in a turn of its recovery: the phase, the kind and the source of the job,
its block, the operation, the addresses of its first operands, and the save area in force. -/
def alternatingTurn (count : Nat) :
    Option (Phase × JobKind × Option Position × Position × Operation × List UInt64 × UInt64) :=
  ((alternatingStage count).performs? alternatingEntries.backend).map
    fun (job, walk, find, block, recorded) =>
      (walk.phase, job.kind, job.source, block, find.instruction.operation,
        accessed alternatingEntries.decoder find.occurrence 0, recorded.saveArea)

/-- A computed turn is one of the run. -/
theorem performs_of_alternatingTurn {count : Nat} {phase : Phase} {kind : JobKind}
    {source? : Option Position} {operation : Operation} {addresses : List UInt64}
    {saveArea : UInt64}
    (turn : alternatingTurn count =
      some (phase, kind, source?, block, operation, addresses, saveArea)) :
    ∃ job walk find recorded, (alternatingStage count).activity = .running job walk ∧
      Performs alternatingEntries.backend walk (alternatingStage count).state find block recorded ∧
      walk.phase = phase ∧ job.kind = kind ∧ job.source = source? ∧
      find.instruction.operation = operation ∧
      accessed alternatingEntries.decoder find.occurrence 0 = addresses ∧
      recorded.saveArea = saveArea := by
  obtain ⟨⟨job, walk, find, block', recorded⟩, computed, facts⟩ := Option.map_eq_some_iff.mp turn
  simp only [Prod.mk.injEq] at facts
  obtain ⟨isPhase, isKind, isSource, rfl, isOperation, access, inForce⟩ := facts
  obtain ⟨running, performs⟩ := Stage.performs_of_performs? computed
  exact ⟨job, walk, find, recorded, running, performs, isPhase, isKind, isSource, isOperation,
    access, inForce⟩

theorem runs_alternatingStage (count : Nat) :
    Runs alternatingEntries.backend {} alternatingStart (alternatingStage count) :=
  Stage.runs_after _ _ _ count

set_option maxRecDepth 2000

/-- The first pop is the first handler behind the first entry routine. -/
theorem alternating_pops :
    alternatingTurn 5 =
      some (.readingHandlers, .continuation, some ⟨0x10, 0x10⟩, ⟨0x30, 0x104⟩,
        .popReg 16 revealed, [0x1000], 0xff0) := by
  cbv

/-- As long as the first entry routine is the only one, the offset of its pop is right. -/
theorem first_pop_counts_from_own_entry :
    ∃ job walk find recorded, (alternatingStage 5).activity = .running job walk ∧
      Performs alternatingEntries.backend walk (alternatingStage 5).state find
        { native := 0x30, vm := 0x104 } recorded ∧
      find.instruction.operation = .popReg 16 revealed ∧
      (alternatingStage 5).state.saveArea = 0xff0 ∧
      ∃ address ∈ accessed alternatingEntries.decoder find.occurrence 0,
        find.Accesses alternatingEntries.decoder address ∧ 16 = slotOffset 0xff0 address := by
  obtain ⟨job, walk, find, recorded, running, performs, reading, -, -, isPop, -, inForce⟩ :=
    performs_of_alternatingTurn alternating_pops
  have found := performs.performed.reads
  rw [reading] at found
  obtain ⟨address, member, accesses, counted, -, -⟩ :=
    (offset_counts_from_last_entry alternatingEntries.backend {} {} {} [0x10] _
      (runs_alternatingStage 5)).2 job walk find _ recorded 0 16 running performs
      (by rw [isPop]; rfl)
  have same : (alternatingStage 5).state.saveArea = 0xff0 := found.kept.symm.trans inForce
  exact ⟨job, walk, find, recorded, running, performs, isPop, same, address, member, accesses,
    same ▸ counted⟩

/-- The job behind the computed jump descends from the first entry routine, whose save area lies
at `0xff0`, and pops to `0x1000`, which is 16 bytes above. The second entry routine has been found
meanwhile, so that the pop counts 32 bytes. -/
theorem foreign_entry_shifts_offset :
    ∃ job walk find recorded source, (alternatingStage 18).activity = .running job walk ∧
      Performs alternatingEntries.backend walk (alternatingStage 18).state find
        { native := 0x30, vm := 0x308 } recorded ∧
      job.source = some source ∧
      Lineage alternatingEntries.backend {} alternatingStart source 0xff0 ∧
      find.instruction.operation = .popReg 32 revealed ∧
      accessed alternatingEntries.decoder find.occurrence 0 = [0x1000] ∧
      32 ≠ slotOffset 0xff0 0x1000 := by
  have entered : alternatingTurn 2 =
      some (.seekingEntry, .entry, none, ⟨0x10, 0x10⟩,
        .init (List.replicate 11 (.register "EAX")), [], 0xff0) := by
    cbv
  have jumped : alternatingTurn 12 =
      some (.readingHandlers, .continuation, some ⟨0x30, 0x104⟩, ⟨0x50, 0⟩, .jmpConst, [],
        0xff0) := by
    cbv
  have shifted : alternatingTurn 18 =
      some (.readingHandlers, .continuation, some ⟨0x50, 0⟩, ⟨0x30, 0x308⟩, .popReg 32 revealed,
        [0x1000], 0xfe0) := by
    cbv
  obtain ⟨_, _, _, _, running, performs, seeking, isEntry, -, -, -, inForce⟩ :=
    performs_of_alternatingTurn entered
  have found := performs.performed.reads
  rw [seeking, inForce] at found
  have lineage := Lineage.enters (runs_alternatingStage 2) running isEntry performs found.recovers
  obtain ⟨_, _, _, _, running, performs, -, isContinuation, behind, -, -, -⟩ :=
    performs_of_alternatingTurn alternating_pops
  have lineage := Lineage.continues (runs_alternatingStage 5) running isContinuation behind lineage
    performs
  obtain ⟨_, _, _, _, running, performs, -, isContinuation, behind, -, -, -⟩ :=
    performs_of_alternatingTurn jumped
  have lineage := Lineage.continues (runs_alternatingStage 12) running isContinuation behind
    lineage performs
  obtain ⟨job, walk, find, recorded, running, performs, -, -, behind, isPop, access, -⟩ :=
    performs_of_alternatingTurn shifted
  exact ⟨job, walk, find, recorded, _, running, performs, behind, lineage, isPop, access,
    by decide⟩

end Witness

end VmRecovery.Flow

import VmRecovery.Proofs.Flow.Edit
import VmRecovery.Proofs.Handler.Operation
import VmRecovery.Proofs.Trace.Coverage

/-!
# The steps of a job

A step looks for the entry routine or reads one handler. `seekEntry_ends` and
`readHandler_ends` state that either makes nothing but edits, and what it leaves of the job:
its source, its phase and its place in the trace.
-/

namespace VmRecovery.Flow

open Handler Machine Trace

namespace RecoveryM

variable {σ α : Type} {walk : Walk} {before : Graph → Prop} {block : Position}
  {instruction : Instruction}

/-! Changes of the graph. -/

/-- What holds over every session holds after a graph has taken the place of the old one. -/
theorem ends_setGraph {state : Recovery σ} {done : Unit → Recovery σ → Prop}
    {failed : Fault → Recovery σ → Prop} (graph : Graph)
    (holds : ∀ session, done () { state with graph, session }) :
    Ends (setGraph graph) state done failed := by
  simp only [setGraph, SessionM.noteAll, ends_bind, ends_get, ends_modify, ends_inSession]
  exact holds _

/-- A change of the graph ends with its answer and the changed graph. -/
theorem ends_changeGraph {state : Recovery σ} {done : α → Recovery σ → Prop}
    {failed : Fault → Recovery σ → Prop} (change : Graph → α × Graph)
    (holds : ∀ session,
      done (change state.graph).1 { state with graph := (change state.graph).2, session }) :
    Ends (changeGraph change) state done failed := by
  simp only [changeGraph, ends_bind, ends_get, ends_pure]
  exact ends_setGraph _ holds

/-- A change of the graph that may fail ends with the changed graph, or leaves the recovery as it
was. -/
theorem ends_tryGraph {state : Recovery σ} {done : Unit → Recovery σ → Prop}
    {failed : Fault → Recovery σ → Prop} (change : Graph → Except Fault Graph)
    (onDone : ∀ graph session, change state.graph = .ok graph →
      done () { state with graph, session })
    (onFailed : ∀ fault, change state.graph = .error fault → failed fault state) :
    Ends (tryGraph change) state done failed := by
  simp only [tryGraph, ends_bind, ends_get]
  split
  · rename_i graph changed
    exact ends_setGraph graph fun session => onDone graph session changed
  · rename_i fault refused
    exact onFailed fault refused

/-- A possible change of the graph that is an edit. -/
theorem tryGraph_makes {change : Graph → Except Fault Graph} {after : Graph → Prop}
    (edit : ∀ graph grown, before graph → change graph = .ok grown →
      GraphEdit walk graph grown ∧ after grown) :
    Makes (σ := σ) walk before (tryGraph change) fun _ => after := by
  intro state holds
  refine ends_tryGraph change (fun graph session changed => ?_) fun _ _ => .refl
  obtain ⟨graphEdit, reached⟩ := edit state.graph graph holds changed
  exact ⟨(Relation.ReflTransGen.single (.graph graphEdit)).tail (.session session), reached⟩

/-- A change of the graph that is an edit makes an edit. -/
theorem changeGraph_makes {change : Graph → α × Graph} {after : α → Graph → Prop}
    (edit : ∀ graph, before graph →
      GraphEdit walk graph (change graph).2 ∧ after (change graph).1 (change graph).2) :
    Makes (σ := σ) walk before (changeGraph change) after := by
  intro state holds
  refine ends_changeGraph change fun session => ?_
  obtain ⟨graphEdit, reached⟩ := edit state.graph holds
  exact ⟨(Relation.ReflTransGen.single (.graph graphEdit)).tail (.session session), reached⟩

/-! The effects of an instruction. -/

/-- Setting the selection leaves the graph alone. -/
theorem setSelection_makes (selection : Selection) :
    Makes (σ := σ) walk before (setSelection selection) fun _ => before :=
  .change (fun _ _ => .selects selection) fun _ => rfl

/-- Running a walk again leaves the graph alone. -/
theorem replay_makes (backend : Backend σ) (snapshot : Snapshot) (steps : Nat) :
    Makes walk before (replay backend snapshot steps) fun _ => before :=
  (Makes.inSession _).bind fun _ => .pure _ fun _ holds => holds

/-- Lifting a block leaves the graph alone. -/
theorem liftBlockAt_makes (backend : Backend σ) (start : Position) :
    Makes walk before (liftBlockAt backend start) fun _ => before := by
  refine Makes.get.bind fun state => ?_
  split
  · exact .throw _
  · exact .inSession _

/-- A block that ends with an entry or a branch may be continued. -/
def Continues (block : Position) (graph : Graph) : Prop :=
  ∃ instruction, graph.EndsWith block instruction ∧
    ((∃ saved, instruction.operation = .init saved) ∨ instruction.operation = .jmp ∨
      instruction.operation = .jmpConst)

/-- A job is queued behind a block that may be continued. -/
theorem resume_makes (snapshot : Snapshot) :
    Makes (σ := σ) walk (Continues block) (resume snapshot block) fun _ => Continues block :=
  (Makes.note _).bind fun _ =>
    .change (fun _ ⟨_, behind, continues⟩ => .resumes snapshot behind continues) fun _ => rfl

/-- The rest of a walk is queued behind a block that may be continued. -/
theorem continueBehind_makes (backend : Backend σ) (job : Walk) :
    Makes walk (Continues block) (continueBehind backend job block) fun _ => Continues block :=
  (replay_makes backend _ _).bind fun next => resume_makes next

/-- Revealing a pair leaves the graph alone. -/
theorem reveal_makes (pair : RegisterPair) :
    Makes (σ := σ) walk before (reveal pair) fun _ => before := by
  refine Makes.get.bind fun state => ?_
  split
  · exact setSelection_makes _
  · exact .note _

/-- The job for a target is queued behind a block that may be continued. -/
theorem fork_makes (backend : Backend σ) (state : Snapshot) (length : Nat) (stack : String)
    (target : UInt64) :
    Makes walk (Continues block) (fork backend state length stack block target)
      fun _ => Continues block := by
  unfold fork
  split
  · exact .note _
  · exact (Makes.note _).bind fun _ => (replay_makes backend _ _).bind fun next => resume_makes next

/-- All that follows a jump is queued behind a block that may be continued. -/
theorem executeJmp_makes (backend : Backend σ) (job : Walk) (occurrence : Occurrence) :
    Makes walk (Continues block) (executeJmp backend job occurrence block)
      fun _ => Continues block := by
  refine (liftBlockAt_makes backend block).bind fun fragment => ?_
  have clear : Makes walk (Continues block) (setSelection (σ := σ) .none)
    fun _ => Continues block := setSelection_makes .none
  dsimp only
  split
  · exact (continueBehind_makes backend job).bind fun _ => clear
  · refine Makes.get.bind fun state => ?_
    split
    · exact (Makes.note _).bind fun _ => clear
    · exact (replay_makes backend _ _).bind fun state =>
        (fork_makes backend state _ _ _).bind fun _ =>
          (fork_makes backend state _ _ _).bind fun _ => clear
  · exact (Makes.note _).bind fun _ => clear

/-- The search for a re-entry leaves the graph alone. -/
theorem reentering_makes (backend : Backend σ) (settings : Settings) (fragment : Ir.Fragment) :
    Makes walk before (reentryPoint? backend settings fragment) fun _ => before := by
  unfold reentryPoint?
  split
  · exact .pure _ fun _ holds => holds
  · exact (Makes.inSession _).bind fun _ => .pure _ fun _ holds => holds

/-- A block ends with an exit. -/
def Exits (block : Position) (instruction : Instruction) (graph : Graph) : Prop :=
  graph.EndsWith block instruction ∧ ∃ restored, instruction.operation = .exit restored

/-- A block that ends with an exit is left by edits: the last call with its re-entry, or the edge to
native code. -/
theorem leaveFor_makes (backend : Backend σ) (settings : Settings) (fragment : Ir.Fragment)
    {target : UInt64} (isSet : target ≠ 0) :
    Makes walk (Exits block instruction)
      (leaveFor backend settings fragment block instruction.position target) fun _ _ => True := by
  refine (reentering_makes backend settings fragment).bind fun answer => ?_
  split
  · rename_i address
    let call : Instruction :=
      { position := instruction.position, size := 0, operation := .exitCall target }
    have called : Makes walk (Exits block instruction)
        (tryGraph (σ := σ) fun graph => graph.appendInstruction block call)
        fun _ graph => graph.EndsWith block call :=
      tryGraph_makes fun graph grown ⟨behind, restored, isExit⟩ grows =>
        ⟨.calls behind isExit grows, Graph.endsWith_of_appendInstruction grows⟩
    refine called.bind fun _ => (Makes.note _).bind fun _ => ?_
    have queued : Makes walk (fun graph => graph.EndsWith block call)
        (enqueue (σ := σ) (.entering address (some block)))
        fun _ graph => graph.EndsWith block call :=
      .change (fun _ behind => .reenters address behind rfl) fun _ => rfl
    exact queued.imp fun _ _ _ => trivial
  · split
    · have left : Makes walk (Exits block instruction)
          (changeGraph (σ := σ) fun graph =>
            graph.link { source := block, target := .ofNative target, kind := .native })
          fun _ _ => True :=
        changeGraph_makes fun graph ⟨behind, restored, isExit⟩ =>
          ⟨.leaves behind isExit isSet, trivial⟩
      exact left.bind fun _ => .pure _ fun _ _ => trivial
    · exact .pure _ fun _ _ => trivial

/-- An exit is executed by edits, as its block ends with it. -/
theorem executeExit_makes (backend : Backend σ) (settings : Settings) :
    Makes walk (Exits block instruction)
      (executeExit backend settings block instruction.position) fun _ _ => True := by
  refine (liftBlockAt_makes backend block).bind fun fragment => ?_
  split
  · split
    · rename_i target isSet
      exact leaveFor_makes backend settings fragment (by simpa using isSet)
    · exact .pure _ fun _ _ => trivial
  · exact (Makes.note _).imp fun _ _ _ => trivial

/-- The effect of the instruction that a block ends with consists of edits. -/
theorem applyEffect_makes (backend : Backend σ) (settings : Settings) (job : Walk)
    (occurrence : Occurrence) :
    Makes walk (fun graph => graph.EndsWith block instruction)
      (applyEffect backend settings job occurrence block instruction) fun _ _ => True := by
  unfold applyEffect
  split
  · rename_i saved isInit
    exact fun state behind =>
      (continueBehind_makes backend job).imp (fun _ _ _ => trivial) state
        ⟨instruction, behind, .inl ⟨saved, isInit⟩⟩
  · exact (reveal_makes _).imp fun _ _ _ => trivial
  · rename_i isJmp
    exact fun state behind =>
      (executeJmp_makes backend job occurrence).imp (fun _ _ _ => trivial) state
        ⟨instruction, behind, .inr (.inl isJmp)⟩
  · rename_i isJmpConst
    exact fun state behind =>
      (continueBehind_makes backend job).imp (fun _ _ _ => trivial) state
        ⟨instruction, behind, .inr (.inr isJmpConst)⟩
  · rename_i restored isExit
    exact fun state behind =>
      executeExit_makes backend settings state ⟨behind, restored, isExit⟩
  · exact .pure _ fun _ _ => trivial

/-! Recording an instruction. -/

/-- What becomes of the first instruction of a job, once its arrival has been recorded: its
position is free and a block is opened there, or the position is taken. -/
private theorem claimed_ends {position : Position} (state : Recovery σ) (session : Session σ)
    {done : Option Position → Recovery σ → Prop} {failed : Fault → Recovery σ → Prop}
    (opened : ∀ claimed created session,
      (state.graph.arrive walk.source position).claim position = (true, claimed) →
      claimed.createBlock position = .ok created →
      done (some position) { state with graph := created, session })
    (skipped : ∀ skipped session,
      (state.graph.arrive walk.source position).claim position = (false, skipped) →
      done none { state with graph := skipped, session })
    (stalled : ∀ fault claimed session,
      (state.graph.arrive walk.source position).claim position = (true, claimed) →
      claimed.createBlock position = .error fault →
      failed fault { state with graph := claimed, session }) :
    Ends
      (do
        if ← changeGraph fun graph => graph.claim position then
          tryGraph fun graph => graph.createBlock position
          return some position
        else
          note (.alreadyVisited position)
          return none)
      { state with graph := state.graph.arrive walk.source position, session } done failed := by
  rw [ends_bind]
  refine ends_changeGraph _ fun session => ?_
  cases claimed : (state.graph.arrive walk.source position).claim position with
  | mk answer graph =>
      cases answer with
      | false =>
          simp only [Bool.false_eq_true, if_false, ends_bind, note, ends_inSession,
            SessionM.note, SessionM.noteAll, ends_modify, ends_pure]
          exact skipped graph _ claimed
      | true =>
          simp only [if_true, ends_bind, ends_pure]
          exact ends_tryGraph _ (fun created session creates => opened graph created session claimed
            creates) fun fault present => stalled fault graph _ claimed present

/-- The block that an instruction belongs to is the one that the job has open, or it is opened
at the position of the instruction. -/
theorem openBlock_ends {position : Position} (state : Recovery σ)
    {done : Option Position → Recovery σ → Prop} {failed : Fault → Recovery σ → Prop}
    (isOpen : ∀ block, walk.block = some block → done (some block) state)
    (opened : ∀ claimed created session, walk.block = none →
      (state.graph.arrive walk.source position).claim position = (true, claimed) →
      claimed.createBlock position = .ok created →
      done (some position) { state with graph := created, session })
    (skipped : ∀ skipped session, walk.block = none →
      (state.graph.arrive walk.source position).claim position = (false, skipped) →
      done none { state with graph := skipped, session })
    (stalled : ∀ fault claimed session, walk.block = none →
      (state.graph.arrive walk.source position).claim position = (true, claimed) →
      claimed.createBlock position = .error fault →
      failed fault { state with graph := claimed, session }) :
    Ends (openBlock walk position) state done failed := by
  unfold openBlock
  split
  · rename_i block own
    exact isOpen block own
  · rename_i fresh
    have claims := fun session => @claimed_ends _ walk position state session _ _
      (fun claimed created session => opened claimed created session fresh)
      (fun graph session => skipped graph session fresh)
      fun fault graph session => stalled fault graph session fresh
    dsimp only
    split
    · rename_i source isSource
      rw [ends_bind]
      refine ends_changeGraph _ fun session => ?_
      have claimed := claims session
      rwa [isSource] at claimed
    · rename_i noSource
      have isRoot : walk.source = none := Option.eq_none_iff_forall_not_mem.mpr noSource
      have claimed := claims state.session
      rwa [isRoot] at claimed

/-- Puts an instruction into the block of a job. The answer is that block, or nothing if the
position of the instruction was taken. -/
def record (walk : Walk) (instruction : Instruction) : RecoveryM σ (Option Position) := do
  match ← openBlock walk instruction.position with
  | none => return none
  | some block =>
      note (.recovered instruction)
      tryGraph fun graph => graph.appendInstruction block instruction
      return some block

/-- An instruction is recorded before its effect is applied. -/
theorem execute_eq (backend : Backend σ) (settings : Settings) (walk : Walk)
    (occurrence : Occurrence) (instruction : Instruction) :
    execute backend settings walk occurrence instruction =
      record walk instruction >>= fun block? =>
        match block? with
        | none => pure { walk with phase := .finished }
        | some block => do
            applyEffect backend settings walk occurrence block instruction
            return { walk with
              block := some block
              phase := if endsJob instruction.operation then .finished else walk.phase } := by
  simp only [execute, record, bind_assoc]
  refine bind_congr fun block? => ?_
  cases block? with
  | none => simp
  | some block => simp

/-- An instruction is put into a block, or it cannot be. -/
theorem record_ends (state : Recovery σ) :
    Ends (record walk instruction) state
      (fun block? after => ∃ graph session, after = { state with graph, session } ∧
        Recorded walk instruction state.graph block? graph)
      fun _ after => ∃ graph session, after = { state with graph, session } ∧
        Stalled walk instruction state.graph graph := by
  unfold record
  rw [ends_bind]
  refine openBlock_ends state (fun block own => ?_) (fun claimed created session fresh free
    creates => ?_) (fun skipped session fresh taken => ?_)
    fun fault claimed session fresh free present => ?_
  · simp only [ends_bind, note, ends_inSession, SessionM.note, SessionM.noteAll, ends_modify,
      ends_pure]
    exact ends_tryGraph _ (fun grown session grows => ⟨grown, session, rfl, .appends own grows⟩)
      fun fault missing => ⟨_, _, rfl, .misses⟩
  · simp only [ends_bind, note, ends_inSession, SessionM.note, SessionM.noteAll, ends_modify,
      ends_pure]
    refine ends_tryGraph _ (fun grown session grows => ⟨grown, session, rfl,
      .opens fresh free creates grows⟩) fun fault missing => ?_
    have present : created.block? instruction.position = some { start := instruction.position } :=
      (Graph.block?_createBlock creates).trans (if_pos rfl)
    obtain ⟨grown, grows⟩ := @Graph.appendInstruction_of_present _ _ instruction _ present
    cases missing.symm.trans grows
  · exact ⟨skipped, session, rfl, .revisits fresh taken⟩
  · exact ⟨claimed, session, rfl, .claims fresh free present⟩

/-- Recording an instruction makes edits only. The job is finished if another one has been at
its position before, or if the instruction ends it. -/
theorem execute_makes (backend : Backend σ) (settings : Settings) (occurrence : Occurrence)
    (recorded : walk.phase.Records instruction) :
    Makes walk before (execute backend settings walk occurrence instruction)
      fun walk' _ => ∃ block phase, walk' = { walk with block, phase } ∧
        (phase = .finished ∨ phase = walk.phase ∧ endsJob instruction.operation = false) := by
  intro state _
  rw [execute_eq, ends_bind]
  refine (record_ends state).imp ?_ ?_
  · rintro block? _ ⟨graph, session, rfl, put⟩
    have edits : Edits walk state { state with graph, session } :=
      (Relation.ReflTransGen.single (.graph (put.edit recorded))).tail (.session session)
    cases block? with
    | none => exact ⟨edits, walk.block, .finished, rfl, .inl rfl⟩
    | some block =>
        rw [ends_bind]
        refine (applyEffect_makes backend settings walk occurrence _ put.endsWith).imp ?_
          fun _ _ further => edits.trans further
        intro _ next further
        refine ⟨edits.trans further.1, some block, _, rfl, ?_⟩
        cases endsJob instruction.operation with
        | false => exact .inr ⟨rfl, rfl⟩
        | true => exact .inl rfl
  · rintro fault _ ⟨graph, session, rfl, stalled⟩
    cases stalled with
    | misses => exact .single (.session session)
    | claims fresh free present =>
        exact (Relation.ReflTransGen.single (.graph (.stalls fresh free present))).tail
          (.session session)

/-! Looking for the entry routine. -/

/-- The occurrence at the cursor is handed out unless the trace is exhausted or no group starts
there. The state does not change. -/
theorem ends_nextOccurrence {state : Recovery σ} {done : Occurrence × Walk → Recovery σ → Prop}
    {failed : Fault → Recovery σ → Prop} :
    Ends (nextOccurrence walk) state done failed ↔
      if walk.walker.atEnd then failed (.traceExhausted walk.walker.length) state
      else if (walk.walker.current state.grouping).isEmpty then
        failed (.emptyOccurrence walk.walker.cursor) state
      else
        done (walk.walker.current state.grouping,
          { walk with walker := (walk.walker.look state.grouping).2 }) state := by
  unfold nextOccurrence
  by_cases finished : walk.walker.atEnd
  · simp [finished]
  · by_cases empty : (walk.walker.current state.grouping).isEmpty
    · simp [finished, empty, Walker.look]
    · simp [finished, empty, Walker.look]

/-- What a job comes to is what its walker hands out. -/
theorem nextOccurrence_current (walk : Walk) (state : Recovery σ) :
    Ends (nextOccurrence walk) state
      (fun answer after => answer.1 = walk.walker.current state.grouping ∧ after = state)
      fun _ after => after = state := by
  rw [ends_nextOccurrence]
  split
  · rfl
  · split
    · rfl
    · exact ⟨rfl, rfl⟩

/-- A key push is joined with the occurrence behind it, at which the job is then. -/
theorem joinKeyPush_ends (backend : Backend σ) (occurrence : Occurrence) (state : Recovery σ) :
    Ends (joinKeyPush backend occurrence walk) state
      (fun answer next => Edits walk state next ∧ ∃ walker, answer.2 = { walk with walker } ∧
        (walker = walk.walker ∨ walker = (walk.walker.advance.look state.grouping).2))
      fun _ _ => False := by
  unfold joinKeyPush
  simp only [ends_bind, ends_inSession, SessionM.noteLookups, SessionM.noteAll, ends_modify]
  split
  · exact ⟨.single (.session _), _, rfl, .inr rfl⟩
  · exact ⟨.single (.session _), _, rfl, .inl rfl⟩

/-- What a step leaves of a job, besides what it has recorded. -/
structure Continued (walk walk' : Walk) (grouping : Grouping) : Prop where
  sameSource : walk'.source = walk.source
  handedOut : (walk.walker.current grouping).steps ≠ []
  /-- The job is behind the occurrence at its cursor, or behind the one that was joined to it. -/
  moved : walk'.walker = walk.walker.past grouping ∨
    walk'.walker = (walk.walker.past grouping).past grouping
  /-- A job that seeks the entry routine seeks on until it has found it, and is finished then. -/
  seeking : walk.phase = .seekingEntry → walk'.phase = .seekingEntry ∨ walk'.phase = .finished

/-- The instruction of an entry is recorded while the entry is sought. -/
theorem records_entryInstruction (seeking : walk.phase = .seekingEntry) (start : UInt64)
    (entry : Entry) : walk.phase.Records (entryInstruction start entry) where
  isInit_iff := ⟨fun _ => seeking, fun _ => ⟨entry.saved, rfl⟩⟩
  ne_exitCall _ := by simp [entryInstruction]

/-- A step that looks for the entry routine makes edits only and moves on in the trace. -/
theorem seekEntry_ends (backend : Backend σ) (settings : Settings) (state : Recovery σ)
    (seeking : walk.phase = .seekingEntry) :
    Ends (seekEntry backend settings walk) state
      (fun walk' next => Edits walk state next ∧ Continued walk walk' state.grouping)
      fun _ next => Edits walk state next := by
  unfold seekEntry
  rw [ends_bind, ends_nextOccurrence]
  split
  · exact .refl
  split
  · exact .refl
  rename_i nonempty
  have handedOut : (walk.walker.current state.grouping).steps ≠ [] :=
    fun empty => nonempty (List.isEmpty_iff.mpr empty)
  rw [ends_bind]
  refine (joinKeyPush_ends backend _ state).imp ?_ fun _ _ impossible => impossible.elim
  rintro ⟨occurrence, joined⟩ middle ⟨edits, walker, rfl, place⟩
  have edits : Edits walk state middle := edits.of_walker
  have moved : walker.advance = walk.walker.past state.grouping ∨
      walker.advance = (walk.walker.past state.grouping).past state.grouping := by
    rcases place with rfl | rfl
    · exact .inl rfl
    · exact .inr rfl
  refine ((?_ : Makes { walk with walker } (fun _ => True) _ fun walk' _ =>
    Continued walk walk' state.grouping) middle trivial).imp ?_ fun _ _ further =>
      edits.trans further.of_walker
  · dsimp only
    split
    · exact .throw _
    · refine (Makes.inSession _).bind fun fragment => ?_
      split
      · exact (Makes.note _).bind fun _ => .pure _ fun _ _ =>
          ⟨rfl, handedOut, moved, fun seeking => .inl seeking⟩
      · rename_i start _ _ entry _
        let joinedWalk : Walk := { walk with walker }
        have recorded : joinedWalk.phase.Records (entryInstruction start entry) :=
          records_entryInstruction seeking start entry
        refine (Makes.change (fun _ _ => .locates entry.saveArea) fun _ => rfl).bind fun _ =>
          (Makes.note _).bind fun _ =>
            (execute_makes backend settings occurrence recorded).bind fun walk' => ?_
        rintro after ⟨block, phase, rfl, ended⟩
        refine ⟨.refl, rfl, handedOut, moved, fun _ => ?_⟩
        rcases ended with finished | ⟨same, -⟩
        · exact .inr finished
        · exact .inl (same.trans seeking)
  · exact fun _ _ further => ⟨edits.trans further.1.of_walker, further.2⟩

/-! Reading a handler. -/

/-- A pattern is stored only where the cache has none. -/
theorem recognise_ends (backend : Backend σ) (occurrence : Occurrence) (range : HandlerRange)
    (isCached : Bool) (state : Recovery σ)
    (absent : isCached = false → state.cache.patterns[range]? = none) :
    Ends (recognise backend occurrence range isCached) state
      (fun _ next => Edits walk state next) fun _ next => Edits walk state next := by
  simp only [recognise, ends_bind, ends_inSession, ends_get]
  refine .of_forall (fun fragment session => ?_) fun _ session => .single (.session session)
  refine .of_forall (fun verdict session => ?_) fun _ session => .single (.session session)
  have classified : Edits walk state { state with session } := .single (.session session)
  split
  · rename_i pattern
    cases isCached with
    | false =>
        simp only [Bool.not_false, if_true, ends_bind, ends_modify, ends_pure]
        exact classified.tail (.stores pattern (absent rfl))
    | true => simpa using classified
  · exact classified

/-- A verdict is reached by edits: a pattern is looked up, and stored where the cache has none. -/
theorem verdictOf_makes (backend : Backend σ) (occurrence : Occurrence) (range : HandlerRange) :
    Makes walk before (verdictOf backend occurrence range) fun _ _ => True := by
  intro state _
  simp only [verdictOf, cached?, ends_bind, ends_modifyGet]
  have looked : Edits walk state { state with cache := (state.cache.lookup range).2 } :=
    .single (.looksUp range)
  split
  · rename_i missed
    have absent : state.cache.patterns[range]? = none := by
      unfold Cache.lookup at missed
      split at missed
      · cases missed
      · assumption
    have same : (state.cache.lookup range).2.patterns = state.cache.patterns := by
      unfold Cache.lookup
      split <;> rfl
    refine (recognise_ends backend occurrence range false _ fun _ => ?_).imp
      (fun _ _ further => ⟨looked.trans further, trivial⟩) fun _ _ further => looked.trans further
    rw [same, absent]
  · rw [ends_bind, ends_get]
    split
    · simp only [ends_bind, note, ends_inSession, SessionM.note, SessionM.noteAll, ends_modify,
        ends_pure]
      exact ⟨looked.tail (.session _), trivial⟩
    · simp only [ends_bind, note, ends_inSession, SessionM.note, SessionM.noteAll, ends_modify]
      refine (recognise_ends backend occurrence range true _ (by simp)).imp
        (fun _ _ further => ⟨(looked.tail (.session _)).trans further, trivial⟩)
        fun _ _ further => (looked.tail (.session _)).trans further

/-- A job that reads handlers may record whatever a pattern performs, since no pattern is an entry.
-/
theorem records_instruction? (reading : walk.phase ≠ .seekingEntry) {pattern : Pattern}
    {occurrence : Occurrence} {selection : Selection} {decoder : Native.Decoder}
    {saveArea : UInt64}
    (performed : pattern.instruction? occurrence selection decoder saveArea = some instruction) :
    walk.phase.Records instruction := by
  unfold Pattern.instruction? at performed
  split at performed
  · obtain ⟨operation, isOperation, rfl⟩ := Option.map_eq_some_iff.mp performed
    have kinds := Pattern.ne_of_operation? isOperation
    exact ⟨⟨fun ⟨saved, isInit⟩ => absurd isInit (kinds.1 saved),
      fun seeking => absurd seeking reading⟩, kinds.2.1⟩
  · cases performed

/-- Performing a pattern makes edits, and leaves the job its source and its place. -/
theorem perform_makes (backend : Backend σ) (settings : Settings) (occurrence : Occurrence)
    (start : UInt64) (pattern : Pattern) (reading : walk.phase ≠ .seekingEntry) :
    Makes walk before (perform backend settings walk occurrence start pattern)
      fun walk' _ => walk'.source = walk.source ∧ walk'.walker = walk.walker := by
  refine Makes.get.bind fun state => (Makes.inSession _).bind fun _ => ?_
  split
  · rename_i instruction performed
    refine (execute_makes backend settings occurrence
      (records_instruction? reading performed)).imp ?_
    rintro _ _ ⟨block, phase, rfl, -⟩
    exact ⟨rfl, rfl⟩
  · exact (Makes.note _).bind fun _ => .pure _ fun _ _ => ⟨rfl, rfl⟩

/-- Recording an unknown handler makes edits, and leaves the job its source and its place. -/
theorem recordUnknown_makes (backend : Backend σ) (settings : Settings) (occurrence : Occurrence)
    (reading : walk.phase ≠ .seekingEntry) :
    Makes walk before (recordUnknown backend settings walk occurrence)
      fun walk' _ => walk'.source = walk.source ∧ walk'.walker = walk.walker := by
  refine Makes.get.bind fun state => ?_
  refine (Makes.change (fun _ _ => .countsUnknown) fun _ => rfl).bind fun _ =>
    (Makes.note _).bind fun _ => ?_
  have recorded : walk.phase.Records
      { position := occurrence.position state.selection.code?, size := 0, operation := .unknown } :=
    ⟨by simp [reading], by simp⟩
  refine (execute_makes backend settings occurrence recorded).bind fun walk' => ?_
  rintro after ⟨block, phase, rfl, -⟩
  split <;> exact ⟨.refl, rfl, rfl⟩

/-- A step that reads a handler makes edits only. The job is still at the occurrence then. -/
theorem readHandler_ends (backend : Backend σ) (settings : Settings) (state : Recovery σ)
    (reading : walk.phase = .readingHandlers) :
    Ends (readHandler backend settings walk) state
      (fun walk' next => Edits walk state next ∧ walk'.source = walk.source ∧
        (walk.walker.current state.grouping).steps ≠ [] ∧
        walk'.walker = (walk.walker.look state.grouping).2)
      fun _ next => Edits walk state next := by
  unfold readHandler
  rw [ends_bind, ends_nextOccurrence]
  split
  · exact .refl
  split
  · exact .refl
  rename_i nonempty
  have handedOut : (walk.walker.current state.grouping).steps ≠ [] :=
    fun empty => nonempty (List.isEmpty_iff.mpr empty)
  let looked : Walk := { walk with walker := (walk.walker.look state.grouping).2 }
  have seeks : looked.phase ≠ .seekingEntry := by simp [looked, reading]
  refine ((?_ : Makes looked (fun _ => True) _ fun walk' _ =>
    walk'.source = walk.source ∧ walk'.walker = looked.walker) state trivial).imp ?_
      fun _ _ further => further.of_walker
  · dsimp only
    split
    · exact .pure _ fun _ _ => ⟨rfl, rfl⟩
    · rename_i first last _
      refine (verdictOf_makes backend _ _).bind fun verdict => ?_
      split
      · exact perform_makes backend settings _ _ _ seeks
      · exact (Makes.note _).bind fun _ => .pure _ fun _ _ => ⟨rfl, rfl⟩
      · exact (Makes.note _).bind fun _ => .pure _ fun _ _ => ⟨rfl, rfl⟩
      · exact recordUnknown_makes backend settings _ seeks
  · exact fun _ _ further => ⟨further.1.of_walker, further.2.1, handedOut, further.2.2⟩

end RecoveryM

end VmRecovery.Flow

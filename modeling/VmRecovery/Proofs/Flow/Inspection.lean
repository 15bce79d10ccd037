import VmRecovery.Proofs.Flow.Find

/-!
# Inspecting an occurrence

Inspecting the next occurrence leaves the graph and the queue alone, whatever it comes to.
`inspect_ends` states what is known of a find: its occurrence is the next stretch of the trace,
and its instruction is that of an entry routine, or was read by a pattern that fits the selected
registers, or stands for an unrecognised handler.
-/

namespace VmRecovery.Flow

open Handler Machine Trace

variable {σ : Type} {backend : Backend σ} {walk : Walk}

/-- What inspecting an occurrence leaves alone. -/
structure Inspected (state after : Recovery σ) : Prop where
  sameGraph : after.graph = state.graph
  sameQueue : after.queue = state.queue
  sameGrouping : after.grouping = state.grouping
  sameSelection : after.selection = state.selection

/-- What a job reads off an occurrence in a phase, and the save area in force then. -/
inductive Reads (backend : Backend σ) (state : Recovery σ) (find : Find) (saveArea : UInt64) :
    Phase → Prop where
  | entry {start : UInt64} {fragment : Ir.Fragment} {entry : Entry}
      (lifted : (backend.liftOccurrence find.occurrence state.session.host).1 = some fragment)
      (detected : fragment.entry? backend.defaultStackPointer = some entry)
      (isEntry : find.instruction = RecoveryM.entryInstruction start entry)
      (located : saveArea = entry.saveArea) : Reads backend state find saveArea .seekingEntry
  | handler {pattern : Pattern} (isPattern : find.pattern? = some pattern)
      (performed : pattern.instruction? find.occurrence state.selection backend.decoder
        state.saveArea = some find.instruction)
      (kept : saveArea = state.saveArea) : Reads backend state find saveArea .readingHandlers
  | unknown
      (isUnknown : find.instruction =
        { position := find.occurrence.position state.selection.code?
          size := 0
          operation := .unknown })
      (kept : saveArea = state.saveArea) : Reads backend state find saveArea .readingHandlers

/-- Only jobs that seek the entry routine or read handlers come to an instruction. -/
theorem Reads.active {state : Recovery σ} {find : Find} {saveArea : UInt64} {phase : Phase}
    (reads : Reads backend state find saveArea phase) :
    phase = .seekingEntry ∨ phase = .readingHandlers := by
  cases reads with
  | entry => exact .inl rfl
  | handler => exact .inr rfl
  | unknown => exact .inr rfl

/-- A job has inspected an occurrence: the next steps of its trace, behind which it goes on. -/
structure Ahead (walk walk' : Walk) (occurrence : Occurrence) : Prop where
  sameJob : ∃ walker, walk' = { walk with walker }
  handedOut : occurrence.steps ≠ []
  ahead : occurrence.steps <+: walk.walker.remaining
  reached : walk'.walker.reached = walk.walker.cursor + occurrence.length

/-- The answer of an inspection. -/
def Answered (backend : Backend σ) (walk : Walk) (state : Recovery σ) (answer : Walk × Option Find)
    (after : Recovery σ) : Prop :=
  match answer.2 with
  | none => (∃ walker, answer.1 = { walk with walker }) ∧ after.saveArea = state.saveArea
  | some find =>
      Ahead walk answer.1 find.occurrence ∧ Reads backend state find after.saveArea walk.phase

namespace RecoveryM

/-- The occurrence at the cursor lies ahead. -/
theorem ahead_look {grouping : Grouping}
    (handedOut : (walk.walker.current grouping).steps ≠ []) :
    Ahead walk { walk with walker := (walk.walker.look grouping).2 }
      (walk.walker.current grouping) where
  sameJob := ⟨_, rfl⟩
  handedOut := handedOut
  ahead := walk.walker.current_isPrefix grouping
  reached := rfl

/-- So does the occurrence at the cursor joined with the one behind it. -/
theorem ahead_join {grouping : Grouping}
    (handedOut : (walk.walker.current grouping).steps ≠ []) :
    Ahead walk { walk with walker := ((walk.walker.past grouping).look grouping).2 }
      (walk.walker.current grouping ++ (walk.walker.past grouping).current grouping) where
  sameJob := ⟨_, rfl⟩
  handedOut := by
    intro empty
    exact handedOut (List.append_eq_nil_iff.mp empty).1
  ahead := by
    obtain ⟨rest, split⟩ := (walk.walker.past grouping).current_isPrefix grouping
    refine ⟨rest, ?_⟩
    rw [← walk.walker.steps_append_remaining_past grouping, ← split]
    exact List.append_assoc _ _ _
  reached := by
    change _ = walk.walker.cursor + (_ ++ _ : List Step).length
    rw [List.length_append, ← Nat.add_assoc]
    rfl

/-- A key push is joined with the occurrence behind it; another occurrence stays as it is. -/
theorem joinKeyPush_joins (backend : Backend σ) {state : Recovery σ}
    {done : Occurrence × Walk → Recovery σ → Prop} {failed : Fault → Recovery σ → Prop}
    (handedOut : (walk.walker.current state.grouping).steps ≠ [])
    (holds : ∀ occurrence walk' session, Ahead walk walk' occurrence →
      session.host = state.session.host → done (occurrence, walk') { state with session }) :
    Ends
      (joinKeyPush backend (walk.walker.current state.grouping)
        { walk with walker := (walk.walker.look state.grouping).2 })
      state done failed := by
  unfold joinKeyPush
  simp only [ends_bind, ends_inSession, SessionM.noteLookups, SessionM.noteAll, ends_modify]
  split
  · exact holds _ _ _ (ahead_join handedOut) rfl
  · exact holds _ _ _ (ahead_look handedOut) rfl

/-- Looking for the entry routine finds it only where its dataflow is that of one. -/
theorem inspectEntry_ends (backend : Backend σ) (state : Recovery σ)
    (seeking : walk.phase = .seekingEntry) :
    Ends (inspectEntry backend walk) state
      (fun answer after => Inspected state after ∧ Answered backend walk state answer after)
      fun _ after => Inspected state after ∧ after.saveArea = state.saveArea := by
  unfold inspectEntry
  rw [ends_bind, ends_nextOccurrence]
  split
  · exact ⟨⟨rfl, rfl, rfl, rfl⟩, rfl⟩
  split
  · exact ⟨⟨rfl, rfl, rfl, rfl⟩, rfl⟩
  rename_i nonempty
  have handedOut : (walk.walker.current state.grouping).steps ≠ [] :=
    fun empty => nonempty (List.isEmpty_iff.mpr empty)
  rw [ends_bind]
  refine joinKeyPush_joins backend handedOut fun occurrence walk' session ahead sameHost => ?_
  dsimp only
  split
  · exact ⟨⟨rfl, rfl, rfl, rfl⟩, rfl⟩
  simp only [SessionM.lift, SessionM.call, ends_bind, ends_inSession, ends_modifyGet]
  split
  · rename_i start _ _ fragment lifted
    rw [ends_pure]
    split
    · simp only [note, SessionM.note, SessionM.noteAll, ends_bind, ends_inSession, ends_modify,
        ends_pure]
      exact ⟨⟨rfl, rfl, rfl, rfl⟩, ahead.sameJob, rfl⟩
    · rename_i entry detected
      simp only [note, SessionM.note, SessionM.noteAll, ends_bind, ends_inSession, ends_modify,
        ends_pure]
      refine ⟨⟨rfl, rfl, rfl, rfl⟩, ahead, ?_⟩
      rw [seeking]
      exact .entry (sameHost ▸ lifted) detected rfl rfl
  · exact ⟨⟨rfl, rfl, rfl, rfl⟩, trivial⟩

/-- Nothing but the cache and what the collaborators keep has changed. -/
def Consulted (state after : Recovery σ) : Prop :=
  ∃ session cache, after = { state with session, cache }

theorem recognise_consults (backend : Backend σ) (occurrence : Occurrence) (range : HandlerRange)
    (isCached : Bool) (state : Recovery σ) :
    Ends (recognise backend occurrence range isCached) state (fun _ => Consulted state)
      fun _ => Consulted state := by
  simp only [recognise, ends_bind, ends_inSession, ends_get]
  refine .of_forall (fun fragment session => ?_) fun _ session => ⟨session, _, rfl⟩
  refine .of_forall (fun verdict session => ?_) fun _ session => ⟨session, _, rfl⟩
  split
  · split
    · exact ⟨session, _, rfl⟩
    · exact ⟨session, _, rfl⟩
  · exact ⟨session, _, rfl⟩

theorem verdictOf_consults (backend : Backend σ) (occurrence : Occurrence) (range : HandlerRange)
    (state : Recovery σ) :
    Ends (verdictOf backend occurrence range) state (fun _ => Consulted state)
      fun _ => Consulted state := by
  have further : ∀ session cache (after : Recovery σ),
      Consulted { state with session, cache } after → Consulted state after := by
    rintro session cache _ ⟨session', cache', rfl⟩
    exact ⟨session', cache', rfl⟩
  simp only [verdictOf, cached?, ends_bind, ends_modifyGet]
  split
  · exact (recognise_consults backend occurrence range false _).imp
      (fun _ => further _ _) fun _ => further _ _
  · simp only [note, SessionM.note, SessionM.noteAll, ends_bind, ends_get]
    split
    · exact ⟨_, _, rfl⟩
    · exact (recognise_consults backend occurrence range true _).imp
        (fun _ => further _ _) fun _ => further _ _

/-- Reading the next handler finds what its pattern reads off the occurrence, unless the handler
is not recognised. -/
theorem inspectHandler_ends (backend : Backend σ) (state : Recovery σ)
    (reading : walk.phase = .readingHandlers) :
    Ends (inspectHandler backend walk) state
      (fun answer after => Inspected state after ∧ Answered backend walk state answer after)
      fun _ after => Inspected state after ∧ after.saveArea = state.saveArea := by
  unfold inspectHandler
  rw [ends_bind, ends_nextOccurrence]
  split
  · exact ⟨⟨rfl, rfl, rfl, rfl⟩, rfl⟩
  split
  · exact ⟨⟨rfl, rfl, rfl, rfl⟩, rfl⟩
  rename_i nonempty
  have handedOut : (walk.walker.current state.grouping).steps ≠ [] :=
    fun empty => nonempty (List.isEmpty_iff.mpr empty)
  have ahead := ahead_look handedOut
  dsimp only
  split
  · exact ⟨⟨rfl, rfl, rfl, rfl⟩, ahead.sameJob, rfl⟩
  rw [ends_bind]
  refine (verdictOf_consults backend _ _ state).imp ?_ ?_
  · rintro verdict _ ⟨session, cache, rfl⟩
    split
    · simp only [readBy, SessionM.noteLookups, SessionM.noteAll, ends_bind, ends_get,
        ends_inSession, ends_modify]
      split
      · rename_i performed
        refine ⟨⟨rfl, rfl, rfl, rfl⟩, ahead, ?_⟩
        rw [reading]
        exact .handler rfl performed rfl
      · exact ⟨⟨rfl, rfl, rfl, rfl⟩, ahead.sameJob, rfl⟩
    · exact ⟨⟨rfl, rfl, rfl, rfl⟩, ahead.sameJob, rfl⟩
    · exact ⟨⟨rfl, rfl, rfl, rfl⟩, ahead.sameJob, rfl⟩
    · refine ⟨⟨rfl, rfl, rfl, rfl⟩, ahead, ?_⟩
      rw [reading]
      exact .unknown rfl rfl
  · rintro _ _ ⟨session, cache, rfl⟩
    exact ⟨⟨rfl, rfl, rfl, rfl⟩, rfl⟩

/-- Inspecting an occurrence leaves the graph and the queue alone, and a find is read off the
occurrence that lies ahead. -/
theorem inspect_ends (backend : Backend σ) (walk : Walk) (state : Recovery σ) :
    Ends (inspect backend walk) state
      (fun answer after => Inspected state after ∧ Answered backend walk state answer after)
      fun _ after => Inspected state after ∧ after.saveArea = state.saveArea := by
  unfold inspect
  split
  · rename_i seeking
    exact inspectEntry_ends backend state seeking
  · rename_i reading
    exact inspectHandler_ends backend state reading
  · exact ⟨⟨rfl, rfl, rfl, rfl⟩, ⟨_, rfl⟩, rfl⟩
  · exact ⟨⟨rfl, rfl, rfl, rfl⟩, rfl⟩

end RecoveryM

end VmRecovery.Flow

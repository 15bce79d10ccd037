import VmRecovery.Proofs.Flow.Find

/-!
# What follows an instruction

The effect of an instruction queues jobs that resume behind its block, at most as many as its
operation allows, or it marks how the virtual machine is left: by an edge into native code, or by
the call that an exit turns out to be (`applyEffect_departs`). This holds also where the effect
fails half-way.
-/

namespace VmRecovery.Flow

open Machine Trace

variable {σ α : Type} {block : Position} {instruction : Instruction}

/-- Jobs were queued that resume behind a block. -/
def Resumes (block : Position) (state after : Recovery σ) : Prop :=
  ∃ session selection jobs, (∀ job ∈ jobs, ∃ snapshot, job = .resuming snapshot block) ∧
    after = { state with session, selection, queue := state.queue ++ jobs }

/-- The effect of an instruction, as far as the graph and the queue are concerned. -/
inductive Aftermath (block : Position) (instruction : Instruction) (state : Recovery σ) :
    Recovery σ → Prop where
  | resumes {after : Recovery σ} (resumes : Resumes block state after) :
      Aftermath block instruction state after
  /-- The virtual machine is left for native code. -/
  | leaves {restored : List String} {target : UInt64} {session : Session σ}
      (isExit : instruction.operation = .exit restored) (isSet : target ≠ 0) :
      Aftermath block instruction state
        { state with
          session
          graph := (state.graph.link
            { source := block, target := .ofNative target, kind := .native }).2 }
  /-- The virtual machine is left through a call and entered again behind it. -/
  | calls {restored : List String} {target address : UInt64} {grown : Graph} {session : Session σ}
      (isExit : instruction.operation = .exit restored)
      (grows : state.graph.appendInstruction block
        { position := instruction.position, size := 0, operation := .exitCall target } =
          .ok grown) :
      Aftermath block instruction state
        { state with
          session, graph := grown, queue := state.queue ++ [.entering address (some block)] }

/-- How many jobs may go on behind a block that ends with an operation. -/
def continuations : Operation → Nat
  | .init _ => 1
  | .jmp => 2
  | .jmpConst => 1
  | .exitCall _ => 1
  | _ => 0

/-- At most so many jobs were queued, and they resume behind a block. -/
def ResumesWithin (block : Position) (count : Nat) (state after : Recovery σ) : Prop :=
  ∃ session selection jobs,
    (jobs.length ≤ count ∧ ∀ job ∈ jobs, ∃ snapshot, job = .resuming snapshot block) ∧
    after = { state with session, selection, queue := state.queue ++ jobs }

/-- The effect of an instruction with all that its operation tells: how many jobs go on behind
it, and that native code is left for only where it is not known to enter the virtual machine. -/
inductive Departure (backend : Backend σ) (block : Position) (instruction : Instruction)
    (state : Recovery σ) : Recovery σ → Prop where
  | resumes {after : Recovery σ}
      (within : ResumesWithin block (continuations instruction.operation) state after) :
      Departure backend block instruction state after
  | leaves {restored : List String} {target : UInt64} {session : Session σ}
      (isExit : instruction.operation = .exit restored) (isSet : target ≠ 0)
      (isUnknown : backend.isKnownEntry target = false) :
      Departure backend block instruction state
        { state with
          session
          graph := (state.graph.link
            { source := block, target := .ofNative target, kind := .native }).2 }
  | calls {restored : List String} {target address : UInt64} {grown : Graph} {session : Session σ}
      (isExit : instruction.operation = .exit restored)
      (grows : state.graph.appendInstruction block
        { position := instruction.position, size := 0, operation := .exitCall target } =
          .ok grown) :
      Departure backend block instruction state
        { state with
          session, graph := grown, queue := state.queue ++ [.entering address (some block)] }

/-- A departure is an aftermath that also tells how many jobs there are and what native code is left
for. -/
theorem Departure.follows {backend : Backend σ} {state after : Recovery σ}
    (departs : Departure backend block instruction state after) :
    Aftermath block instruction state after := by
  cases departs with
  | resumes within =>
      obtain ⟨session, selection, jobs, ⟨-, resuming⟩, rfl⟩ := within
      exact .resumes ⟨session, selection, jobs, resuming, rfl⟩
  | leaves isExit isSet isUnknown => exact .leaves isExit isSet
  | calls isExit grows => exact .calls isExit grows

namespace ResumesWithin

variable {state middle after : Recovery σ} {count further : Nat}

/-- Nothing was queued. -/
theorem none (block : Position) (state : Recovery σ) (session : Session σ)
    (selection : Selection) : ResumesWithin block 0 state { state with session, selection } :=
  ⟨session, selection, [], by simp, by rw [List.append_nil]⟩

/-- A bound on the queued jobs may be raised. -/
theorem mono (within : ResumesWithin block count state after) (more : count ≤ further) :
    ResumesWithin block further state after := by
  obtain ⟨session, selection, jobs, ⟨few, resuming⟩, rfl⟩ := within
  exact ⟨session, selection, jobs, ⟨few.trans more, resuming⟩, rfl⟩

/-- What is queued in two stretches is bounded by the sum of their bounds. -/
theorem trans (first : ResumesWithin block count state middle)
    (second : ResumesWithin block further middle after) :
    ResumesWithin block (count + further) state after := by
  obtain ⟨session, selection, jobs, ⟨few, resuming⟩, rfl⟩ := first
  obtain ⟨session', selection', more, ⟨fewMore, resumingMore⟩, rfl⟩ := second
  refine ⟨session', selection', jobs ++ more, ⟨?_, fun job member => ?_⟩, ?_⟩
  · rw [List.length_append]
    exact Nat.add_le_add few fewMore
  · exact (List.mem_append.mp member).elim (resuming job) (resumingMore job)
  · rw [List.append_assoc]

end ResumesWithin

namespace RecoveryM

/-- An action queues nothing but so many jobs that resume behind a block. -/
abbrev OnlyResumes (block : Position) (count : Nat) (action : RecoveryM σ α) : Prop :=
  Relates (ResumesWithin block count) action

/-- The bound of an action may be raised. -/
theorem OnlyResumes.mono {count further : Nat} {action : RecoveryM σ α}
    (only : OnlyResumes block count action) (more : count ≤ further) :
    OnlyResumes block further action :=
  Relates.imp only fun _ _ within => within.mono more

/-- Two actions one behind the other queue no more than both of them may. -/
theorem OnlyResumes.bind {β : Type} {count further : Nat} {action : RecoveryM σ α}
    {next : α → RecoveryM σ β} (first : OnlyResumes block count action)
    (second : ∀ answer, OnlyResumes block further (next answer)) :
    OnlyResumes block (count + further) (action >>= next) := by
  refine Relates.bind ?_ ?_ first second
  · exact fun within => within.mono (Nat.le_add_right count further)
  · exact fun within more => within.trans more

/-- An action that queues nothing adds nothing to what comes next. -/
theorem OnlyResumes.before {β : Type} {count : Nat} {action : RecoveryM σ α}
    {next : α → RecoveryM σ β} (first : OnlyResumes block 0 action)
    (second : ∀ answer, OnlyResumes block count (next answer)) :
    OnlyResumes block count (action >>= next) :=
  (first.bind second).mono (Nat.zero_add count).le

theorem OnlyResumes.pure (answer : α) : OnlyResumes (σ := σ) block 0 (Pure.pure answer) :=
  fun state => .none block state state.session state.selection

theorem OnlyResumes.throw (fault : Fault) :
    OnlyResumes (σ := σ) (α := α) block 0 (MonadExcept.throw fault) :=
  fun state => .none block state state.session state.selection

theorem OnlyResumes.get : OnlyResumes (σ := σ) block 0 MonadState.get :=
  fun state => .none block state state.session state.selection

/-- A collaborator queues nothing. -/
theorem OnlyResumes.inSession (action : SessionM σ α) :
    OnlyResumes block 0 (RecoveryM.inSession action) := by
  intro state
  rw [ends_inSession]
  exact .of_forall (fun _ session => .none block state session state.selection)
    fun _ session => .none block state session state.selection

/-- Setting the selection queues nothing. -/
theorem OnlyResumes.setSelection (selection : Selection) :
    OnlyResumes (σ := σ) block 0 (RecoveryM.setSelection selection) :=
  fun state => .none block state state.session selection

/-- Running a walk again queues nothing. -/
theorem OnlyResumes.replay (backend : Backend σ) (snapshot : Snapshot) (steps : Nat) :
    OnlyResumes block 0 (RecoveryM.replay backend snapshot steps) :=
  (inSession _).before fun _ => .pure _

/-- Lifting a block queues nothing. -/
theorem OnlyResumes.liftBlockAt (backend : Backend σ) (start : Position) :
    OnlyResumes block 0 (RecoveryM.liftBlockAt backend start) := by
  refine OnlyResumes.get.before fun state => ?_
  split
  · exact .throw _
  · exact .inSession _

/-- One job resumes behind the block. -/
theorem OnlyResumes.resume (snapshot : Snapshot) :
    OnlyResumes (σ := σ) block 1 (RecoveryM.resume snapshot block) := by
  refine (inSession _).before fun _ state => ?_
  rw [enqueue, ends_modify]
  refine ⟨state.session, state.selection, [.resuming snapshot block], ⟨le_rfl, ?_⟩, rfl⟩
  exact fun job member => ⟨snapshot, List.mem_singleton.mp member⟩

/-- The rest of a walk is queued as one job. -/
theorem OnlyResumes.continueBehind (backend : Backend σ) (walk : Walk) :
    OnlyResumes block 1 (RecoveryM.continueBehind backend walk block) :=
  (OnlyResumes.replay backend _ _).before fun next => .resume next

/-- Revealing a pair queues nothing. -/
theorem OnlyResumes.reveal (pair : RegisterPair) :
    OnlyResumes (σ := σ) block 0 (RecoveryM.reveal pair) := by
  refine OnlyResumes.get.before fun state => ?_
  split
  · exact .setSelection _
  · exact .inSession _

/-- A target is followed by one job, or by none if it cannot be steered to. -/
theorem OnlyResumes.fork (backend : Backend σ) (before : Snapshot) (length : Nat) (stack : String)
    (target : UInt64) :
    OnlyResumes block 1 (RecoveryM.fork backend before length stack block target) := by
  unfold RecoveryM.fork
  split
  · exact (OnlyResumes.inSession _).mono (Nat.zero_le 1)
  · exact (OnlyResumes.inSession _).before fun _ =>
      (OnlyResumes.replay backend _ _).before fun next => .resume next

/-- A jump queues at most two jobs, one for each of its targets. -/
theorem OnlyResumes.executeJmp (backend : Backend σ) (walk : Walk) (occurrence : Occurrence) :
    OnlyResumes block 2 (RecoveryM.executeJmp backend walk occurrence block) := by
  refine (OnlyResumes.liftBlockAt backend block).before fun fragment => ?_
  have clear : OnlyResumes (σ := σ) block 0 (RecoveryM.setSelection .none) := .setSelection .none
  dsimp only
  split
  · exact ((OnlyResumes.continueBehind backend walk).bind fun _ => clear).mono (Nat.le_succ 1)
  · refine OnlyResumes.get.before fun state => ?_
    split
    · exact ((OnlyResumes.inSession _).before fun _ => clear).mono (Nat.zero_le 2)
    · exact (OnlyResumes.replay backend _ _).before fun before =>
        (OnlyResumes.fork backend before _ _ _).bind fun _ =>
          (OnlyResumes.fork backend before _ _ _).bind fun _ => clear
  · exact ((OnlyResumes.inSession _).before fun _ => clear).mono (Nat.zero_le 2)

/-- An action that queues no more than an operation allows is a possible effect of it. -/
theorem OnlyResumes.departs {backend : Backend σ} {count : Nat} {action : RecoveryM σ α}
    (only : OnlyResumes block count action)
    (allowed : count ≤ continuations instruction.operation) :
    Relates (Departure backend block instruction) action :=
  Relates.imp (only.mono allowed) fun _ _ => .resumes

/-- Behind an action that only calls collaborators an effect is that of what comes next. -/
theorem departure_bind {backend : Backend σ} {action : RecoveryM σ α} {next : α → RecoveryM σ Unit}
    {state : Recovery σ}
    (calls : Ends action state (fun _ after => ∃ session, after = { state with session })
      fun _ after => ∃ session, after = { state with session })
    (departs : ∀ answer, Relates (Departure backend block instruction) (next answer)) :
    Ends (action >>= next) state (fun _ => Departure backend block instruction state)
      fun _ => Departure backend block instruction state := by
  have further : ∀ session (after : Recovery σ),
      Departure backend block instruction { state with session } after →
      Departure backend block instruction state after := by
    intro session after departure
    cases departure with
    | resumes within =>
        have both := (ResumesWithin.none block state session state.selection).trans within
        exact .resumes (both.mono (Nat.zero_add _).le)
    | leaves isExit isSet isUnknown => exact .leaves isExit isSet isUnknown
    | calls isExit grows => exact .calls isExit grows
  rw [ends_bind]
  refine calls.imp ?_ ?_
  · rintro answer _ ⟨session, rfl⟩
    exact (departs answer _).imp (fun _ => further session) fun _ => further session
  · rintro _ _ ⟨session, rfl⟩
    exact .resumes ((ResumesWithin.none block state session _).mono (Nat.zero_le _))

/-- Lifting a block only calls collaborators. -/
theorem liftBlockAt_calls (backend : Backend σ) (start : Position) (state : Recovery σ) :
    Ends (liftBlockAt backend start) state
      (fun _ after => ∃ session, after = { state with session })
      fun _ after => ∃ session, after = { state with session } := by
  simp only [liftBlockAt, ends_bind, ends_get]
  split
  · exact ⟨state.session, rfl⟩
  · rw [ends_inSession]
    exact .of_forall (fun _ session => ⟨session, rfl⟩) fun _ session => ⟨session, rfl⟩

/-- So does finding out whether an exit comes back. -/
theorem reentering_calls (backend : Backend σ) (settings : Settings) (fragment : Ir.Fragment)
    (state : Recovery σ) :
    Ends (reentryPoint? backend settings fragment) state
      (fun _ after => ∃ session, after = { state with session })
      fun _ after => ∃ session, after = { state with session } := by
  unfold reentryPoint?
  split
  · exact ⟨state.session, rfl⟩
  · simp only [ends_bind, ends_inSession, ends_pure]
    exact .of_forall (fun _ session => ⟨session, rfl⟩) fun _ session => ⟨session, rfl⟩

/-- An exit leads into native code or back into the virtual machine. -/
theorem leaveFor_departs (backend : Backend σ) (settings : Settings) (fragment : Ir.Fragment)
    {restored : List String} {target : UInt64} (isExit : instruction.operation = .exit restored)
    (isSet : target ≠ 0) :
    Relates (Departure backend block instruction)
      (leaveFor (σ := σ) backend settings fragment block instruction.position target) := by
  intro state
  refine departure_bind (reentering_calls backend settings fragment state) fun answer state => ?_
  have nothing : ResumesWithin block (continuations instruction.operation) state state :=
    (ResumesWithin.none block state state.session state.selection).mono (Nat.zero_le _)
  cases answer with
  | some address =>
      simp only [note, SessionM.note, SessionM.noteAll, enqueue, ends_bind, ends_inSession,
        ends_modify]
      exact ends_tryGraph _ (fun grown session grows => .calls isExit grows)
        fun _ _ => .resumes nothing
  | none =>
      dsimp only
      split
      · rename_i isUnknown
        simp only [ends_bind, ends_pure]
        exact ends_changeGraph _ fun session => .leaves isExit isSet (by simpa using isUnknown)
      · exact .resumes nothing

/-- An exit departs by the call that leaves the machine, by an edge to native code, or not at all.
-/
theorem executeExit_departs (backend : Backend σ) (settings : Settings) {restored : List String}
    (isExit : instruction.operation = .exit restored) :
    Relates (Departure backend block instruction)
      (executeExit (σ := σ) backend settings block instruction.position) := by
  intro state
  refine departure_bind (liftBlockAt_calls backend block state) fun fragment => ?_
  split
  · split
    · rename_i target isSet
      exact leaveFor_departs backend settings fragment isExit (by simpa using isSet)
    · exact (OnlyResumes.pure ()).departs (Nat.zero_le _)
  · exact (OnlyResumes.inSession _).departs (Nat.zero_le _)

/-- Whatever an instruction does, it queues as many jobs behind its block as its operation allows,
or leaves the virtual machine from there. -/
theorem applyEffect_departs (backend : Backend σ) (settings : Settings) (walk : Walk)
    (occurrence : Occurrence) :
    Relates (Departure backend block instruction)
      (applyEffect backend settings walk occurrence block instruction) := by
  unfold applyEffect
  split
  · rename_i saved isInit
    exact (OnlyResumes.continueBehind backend walk).departs (by rw [isInit]; exact le_rfl)
  · exact (OnlyResumes.reveal _).departs (Nat.zero_le _)
  · rename_i isJmp
    exact (OnlyResumes.executeJmp backend walk occurrence).departs (by rw [isJmp]; exact le_rfl)
  · rename_i isJmpConst
    exact (OnlyResumes.continueBehind backend walk).departs (by rw [isJmpConst]; exact le_rfl)
  · rename_i restored isExit
    exact executeExit_departs backend settings isExit
  · exact (OnlyResumes.pure ()).departs (Nat.zero_le _)

/-- Whatever an instruction does, its aftermath is as described. -/
theorem applyEffect_follows (backend : Backend σ) (settings : Settings) (walk : Walk)
    (occurrence : Occurrence) :
    Relates (Aftermath block instruction)
      (applyEffect backend settings walk occurrence block instruction) :=
  (applyEffect_departs backend settings walk occurrence).imp fun _ _ => Departure.follows

end RecoveryM

end VmRecovery.Flow

import VmRecovery.Proofs.Flow.Persistence
import VmRecovery.Proofs.Flow.Tracking
import VmRecovery.Proofs.Simulation.Handlers

/-!
# What the probe tells of an entry

Before an exit is recorded as a call, the probe looks whether the code behind the call enters the
virtual machine; the job that is queued then looks for the entry routine itself. Both begin with
the same node of the same trace. The probe is content with the spilled context, while the job also
has to find the save area, so that a job which finds the entry at once is foretold by the probe,
and the probe is right wherever the save area is reserved (`probe_foretells_entry`). A key push is
joined with the node behind it by the job, and nothing is foretold of it.
`probe_differs_from_entry` shows both differences.
-/

namespace VmRecovery

open VmRecovery.Flow Machine Trace

variable {σ : Type}

/-- What a job that seeks the entry routine looks at: a key push is joined with the occurrence
behind it. -/
def Trace.Walker.sought (walker : Walker) (grouping : Grouping) (decoder : Native.Decoder) :
    Occurrence :=
  if (walker.current grouping).isKeyPush decoder then
    walker.current grouping ++ (walker.look grouping).2.advance.current grouping
  else walker.current grouping

namespace Backend

variable (backend : Backend σ) (address : UInt64) (budget : Nat) (host : σ)

/-- A fresh execution from an address, at its start, with the groups of its control flow when
nothing was observed before. -/
def firstWalk : Except Fault (Walker × Grouping) :=
  (backend.run (backend.defaultSnapshot address) budget host).1.map fun run =>
    (.ofSteps run.steps,
      ({} : Grouping).observe backend.decoder (run.steps.map Step.address))

/-- The node that such an execution begins with. -/
def firstNode : Except Fault Occurrence :=
  (backend.firstWalk address budget host).map fun (walker, grouping) => walker.current grouping

/-- The node that a job looks at first which seeks the entry routine there. -/
def soughtNode : Except Fault Occurrence :=
  (backend.firstWalk address budget host).map fun (walker, grouping) =>
    walker.sought grouping backend.decoder

/-- The dataflow that a node is lifted to. An empty node is not lifted. -/
def lifted? (node : Except Fault Occurrence) : Option Ir.Fragment := do
  let occurrence ← node.toOption
  let _ ← occurrence.start?
  (backend.liftOccurrence occurrence host).1

/-- The probe answers that code at an address enters the virtual machine. -/
def ProbesEntry (session : Session σ) : Prop :=
  Ends (SessionM.probeEntry backend address budget) session (fun found _ => found = true)
    fun _ _ => False

/-- A block of the graph is lifted to native code. -/
def LiftsBlock (state : Recovery σ) (block : Position) (fragment : Ir.Fragment) : Prop :=
  ∃ recovered, state.graph.block? block = some recovered ∧
    (backend.liftBlock recovered state.session.host).1 = some fragment

/-- As far as its lift tells, the block that an exit ends leaves for one target and is called back
at an address. -/
def CallsBack (state : Recovery σ) (block : Position) (target address : UInt64) : Prop :=
  ∃ fragment, backend.LiftsBlock state block fragment ∧
    backend.branchTargets fragment = [target] ∧ target ≠ 0 ∧
    backend.exitCall? fragment = some address

end Backend

/-! The nodes that are looked at. -/

/-- Nothing starts where nothing was executed. -/
theorem Trace.Occurrence.start?_eq_none_iff {occurrence : Occurrence} :
    occurrence.start? = none ↔ occurrence.isEmpty = true := by
  rw [start?, Option.map_eq_none_iff, List.head?_eq_none_iff, isEmpty, List.isEmpty_iff]

/-- A key push consists of two instructions. -/
theorem Trace.Occurrence.isKeyPush_of_isEmpty {occurrence : Occurrence}
    (empty : occurrence.isEmpty = true) (decoder : Native.Decoder) :
    occurrence.isKeyPush decoder = false := by
  rw [isEmpty, List.isEmpty_iff] at empty
  simp [isKeyPush, addresses, empty]

/-- At the end of a trace nothing is handed out. -/
theorem Trace.Walker.isEmpty_current_of_atEnd {walker : Walker} (atEnd : walker.atEnd = true)
    (grouping : Grouping) : (walker.current grouping).isEmpty = true := by
  rw [Walker.atEnd, List.isEmpty_iff] at atEnd
  rw [Walker.current, atEnd]
  rfl

/-- Nothing is sought where nothing is handed out. -/
theorem Trace.Walker.isEmpty_sought {walker : Walker} {grouping : Grouping}
    (empty : (walker.current grouping).isEmpty = true) (decoder : Native.Decoder) :
    (walker.sought grouping decoder).isEmpty = true := by
  rw [sought, Occurrence.isKeyPush_of_isEmpty empty]
  exact empty

namespace Backend

variable {backend : Backend σ} {address : UInt64} {budget : Nat}

theorem firstNode_of_ok {host : σ} {walker : Walker} {grouping : Grouping}
    (begins : backend.firstWalk address budget host = .ok (walker, grouping)) :
    backend.firstNode address budget host = .ok (walker.current grouping) := by
  rw [firstNode, begins]
  rfl

theorem firstNode_of_error {host : σ} {fault : Fault}
    (fails : backend.firstWalk address budget host = .error fault) :
    backend.firstNode address budget host = .error fault := by
  rw [firstNode, fails]
  rfl

/-- A node that is no key push is looked at alone. -/
theorem soughtNode_eq_firstNode {host : σ}
    (plain : ∀ node, backend.firstNode address budget host = .ok node →
      node.isKeyPush backend.decoder = false) :
    backend.soughtNode address budget host = backend.firstNode address budget host := by
  rw [firstNode] at plain
  rw [soughtNode, firstNode]
  cases begins : backend.firstWalk address budget host with
  | error fault => rfl
  | ok walk =>
      rw [begins] at plain
      have alone := plain _ rfl
      simp [Except.map, Walker.sought, alone]

end Backend

/-- The entry routine is recognised by the spilled context and by the save area. -/
theorem Ir.Fragment.isSome_entry_iff (fragment : Fragment) (stackPointer : UInt64) :
    (fragment.entry? stackPointer).isSome ↔
      fragment.savedContext?.isSome ∧ (fragment.saveArea? stackPointer).isSome := by
  unfold entry?
  cases fragment.savedContext? with
  | none => simp
  | some saved =>
      cases fragment.saveArea? stackPointer with
      | none => simp
      | some area => simp

namespace SessionM

variable {backend : Backend σ} {address : UInt64} {budget : Nat}

/-- A walk over nothing that was observed before is the first walk. -/
theorem startWalk_firstWalk (backend : Backend σ) (address : UInt64) (budget : Nat)
    (session : Session σ) :
    Ends (startWalk backend {} (backend.defaultSnapshot address) budget) session
      (fun walk _ => backend.firstWalk address budget session.host = .ok walk)
      fun fault _ => backend.firstWalk address budget session.host = .error fault := by
  refine (startWalk_ends backend {} _ budget session).imp ?_ ?_
  · rintro _ after ⟨run, ran, rfl⟩
    rw [Backend.firstWalk, ran]
    rfl
  · intro fault after failed
    rw [Backend.firstWalk, failed]
    rfl

/-- The answer to a lift does not depend on what was called before. -/
theorem ends_lift (stateless : backend.IsStateless) {node : Occurrence} {start : UInt64}
    (session : Session σ) {done : Ir.Fragment → Session σ → Prop} (host : σ) :
    Ends (lift backend node start) session done (fun _ _ => False) ↔
      ∃ fragment, (backend.liftOccurrence node host).1 = some fragment ∧
        done fragment { session with host := (backend.liftOccurrence node session.host).2 } := by
  rw [stateless.liftOccurrence node host session.host]
  simp only [lift, call, ends_bind, ends_modifyGet]
  cases (backend.liftOccurrence node session.host).1 with
  | none => simp
  | some fragment => simp

/-- The probe answers by the spilled context of the first node. -/
theorem probesEntry_iff (stateless : backend.IsStateless) (session : Session σ) :
    backend.ProbesEntry address budget session ↔
      ∃ fragment, backend.lifted? session.host
          (backend.firstNode address budget session.host) = some fragment ∧
        fragment.savedContext?.isSome := by
  rw [Backend.ProbesEntry, probeEntry, ends_bind, Backend.firstNode]
  have walks := startWalk_firstWalk backend address budget session
  rcases ran : (startWalk backend {} (backend.defaultSnapshot address) budget).run.run session
    with ⟨fault | ⟨walker, grouping⟩, after⟩
  · rw [walks.of_error ran]
    simp [Ends, ran, Backend.lifted?, Except.map, Except.toOption]
  · rw [ends_iff_of_ok ran, walks.of_ok ran]
    dsimp only [Except.map]
    split
    · rename_i isStart
      simp [Backend.lifted?, Except.toOption, isStart]
    · rename_i start isStart
      simp only [ends_bind, note, noteAll, ends_modify, ends_pure]
      rw [ends_lift stateless after session.host]
      simp [Backend.lifted?, Except.toOption, isStart]

/-- The probe answers the same whatever was called before. -/
theorem probeEntry_answers (stateless : backend.IsStateless) (session session' : Session σ) :
    Ends (probeEntry backend address budget) session'
      (fun found _ => found = true ↔ backend.ProbesEntry address budget session)
      fun _ _ => ¬backend.ProbesEntry address budget session := by
  have same := Steady.probeEntry stateless address budget session' session
  rcases ran : (probeEntry backend address budget).run.run session with ⟨outcome, after⟩
  rcases ran' : (probeEntry backend address budget).run.run session' with ⟨outcome', after'⟩
  rw [ran, ran'] at same
  cases same
  rw [Backend.ProbesEntry, Ends, Ends, ran, ran']
  cases outcome with
  | error fault => exact id
  | ok found => rfl

end SessionM

namespace Flow

open RecoveryM

variable {backend : Backend σ} {settings : Settings} {address : UInt64} {source : Option Position}

/-- The first turn of a job recognises the entry routine, whatever comes of recording it. -/
def RecognisesEntry (backend : Backend σ) (settings : Settings) (job : Job)
    (state : Recovery σ) : Prop :=
  Ends (launch backend settings job >>= inspect backend) state
    (fun answer _ => ∃ find saved, answer.2 = some find ∧ find.instruction.operation = .init saved)
    fun _ _ => False

/-- From a state an action records the call that an exit turns out to be and queues the job that
enters behind it, if and only if the code there comes back. Otherwise it keeps all blocks. -/
def RecordsCall (action : RecoveryM σ Unit) (state : Recovery σ) (block exit : Position)
    (comesBack : UInt64 → UInt64 → Prop) : Prop :=
  Ends action state
    (fun _ after =>
      (∃ target address, comesBack target address ∧
        state.graph.appendInstruction block ⟨exit, 0, .exitCall target⟩ = .ok after.graph ∧
        after.queue = state.queue ++ [.entering address (some block)]) ∨
      (∀ target address, ¬comesBack target address) ∧
        after.graph.blocks = state.graph.blocks ∧ after.queue = state.queue)
    fun _ after =>
      (∀ target address, ¬comesBack target address) ∧
        after.graph = state.graph ∧ after.queue = state.queue

theorem RecordsCall.congr {action : RecoveryM σ Unit} {state : Recovery σ} {block exit : Position}
    {comesBack comesBack' : UInt64 → UInt64 → Prop}
    (records : RecordsCall action state block exit comesBack)
    (same : ∀ target address, comesBack target address ↔ comesBack' target address) :
    RecordsCall action state block exit comesBack' := by
  have equal : comesBack = comesBack' := funext₂ fun target address => propext (same target address)
  exact equal ▸ records

namespace RecoveryM

/-- A job that enters at an address goes along the first walk, too. -/
theorem launch_firstWalk (backend : Backend σ) (settings : Settings) (address : UInt64)
    (source : Option Position) {state : Recovery σ} (unobserved : state.grouping = {}) :
    Ends (launch backend settings (.entering address source)) state
      (fun walk launched => walk.phase = .seekingEntry ∧
        backend.firstWalk address settings.entryStepBudget state.session.host =
          .ok (walk.walker, launched.grouping))
      fun fault _ =>
        backend.firstWalk address settings.entryStepBudget state.session.host = .error fault := by
  simp only [launch, count, note, setSelection, startWalk, SessionM.note, SessionM.noteAll,
    ends_bind, ends_modify, ends_get, ends_inSession, ends_pure, unobserved]
  exact (SessionM.startWalk_firstWalk _ _ _ _).imp (fun _ _ begins => ⟨rfl, begins⟩)
    fun _ _ failed => failed

/-- A job joins a key push with the occurrence behind it. -/
theorem joinKeyPush_sought (backend : Backend σ) (walk : Walk) (state : Recovery σ) :
    ∃ walk' session, ∀ done failed,
      Ends (joinKeyPush backend (walk.walker.current state.grouping)
          { walk with walker := (walk.walker.look state.grouping).2 }) state done failed ↔
        done (walk.walker.sought state.grouping backend.decoder, walk')
          { state with session } := by
  unfold joinKeyPush Walker.sought
  simp only [SessionM.noteLookups, SessionM.noteAll, ends_bind, ends_inSession, ends_modify]
  by_cases joins : (walk.walker.current state.grouping).isKeyPush backend.decoder = true
  · rw [if_pos joins, if_pos joins]
    exact ⟨_, _, fun _ _ => Iff.rfl⟩
  · rw [if_neg joins, if_neg joins]
    exact ⟨_, _, fun _ _ => Iff.rfl⟩

/-- A job recognises the entry routine by what it looks at, which has to be lifted to an entry. -/
theorem ends_inspect_seeking (stateless : backend.IsStateless) {walk : Walk}
    (seeking : walk.phase = .seekingEntry) (state : Recovery σ) (host : σ) :
    Ends (inspect backend walk) state
      (fun answer _ => ∃ find saved, answer.2 = some find ∧
        find.instruction.operation = .init saved) (fun _ _ => False) ↔
      ∃ fragment, backend.lifted? host
          (.ok (walk.walker.sought state.grouping backend.decoder)) = some fragment ∧
        (fragment.entry? backend.defaultStackPointer).isSome := by
  have nothing : (walk.walker.current state.grouping).isEmpty = true →
      ¬∃ fragment, backend.lifted? host
          (.ok (walk.walker.sought state.grouping backend.decoder)) = some fragment ∧
        (fragment.entry? backend.defaultStackPointer).isSome := by
    intro empty
    have nowhere := Occurrence.start?_eq_none_iff.mpr (Walker.isEmpty_sought empty backend.decoder)
    simp [Backend.lifted?, Except.toOption, nowhere]
  rw [inspect, seeking]
  dsimp only
  rw [inspectEntry, ends_bind, ends_nextOccurrence]
  -- The job fails at the end of the trace and at an empty node, neither of which is ever lifted.
  split
  · rename_i exhausted
    exact (iff_false_left id).mpr (nothing (Walker.isEmpty_current_of_atEnd exhausted _))
  split
  · rename_i empty
    exact (iff_false_left id).mpr (nothing empty)
  obtain ⟨walk', session, joins⟩ := joinKeyPush_sought backend walk state
  rw [ends_bind, joins]
  dsimp only
  split
  · rename_i isStart
    simp [Backend.lifted?, Except.toOption, isStart]
  · rename_i start isStart
    rw [ends_bind, ends_inSession, SessionM.ends_lift stateless _ host]
    refine exists_congr fun fragment => ?_
    simp only [Backend.lifted?, Except.toOption, isStart, Option.bind_some,
      Option.bind_eq_bind]
    refine and_congr_right fun _ => ?_
    cases fragment.entry? backend.defaultStackPointer with
    | none =>
        simp only [note, SessionM.note, SessionM.noteAll, ends_bind, ends_modify, ends_inSession,
          ends_pure]
        simp
    | some entry =>
        simp only [note, SessionM.note, SessionM.noteAll, ends_bind, ends_modify, ends_inSession,
          ends_pure]
        simp [entryInstruction]

/-- The first turn of a job that enters at an address looks at the node that is sought there. -/
theorem recognisesEntry_iff (stateless : backend.IsStateless) {state : Recovery σ}
    (unobserved : state.grouping = {}) :
    RecognisesEntry backend settings (.entering address source) state ↔
      ∃ fragment, backend.lifted? state.session.host
          (backend.soughtNode address settings.entryStepBudget state.session.host) =
            some fragment ∧
        (fragment.entry? backend.defaultStackPointer).isSome := by
  rw [RecognisesEntry, ends_bind, Backend.soughtNode]
  have launches := launch_firstWalk backend settings address source unobserved
  rcases ran : (launch backend settings (.entering address source)).run.run state
    with ⟨fault | walk, launched⟩
  · rw [launches.of_error ran]
    simp [Ends, ran, Backend.lifted?, Except.map, Except.toOption]
  · obtain ⟨seeking, begins⟩ := launches.of_ok ran
    rw [ends_iff_of_ok ran, begins]
    exact ends_inspect_seeking stateless seeking launched state.session.host

/-! The call behind an exit. -/

/-- The code behind an exit comes back where its lift tells, if the probe answers so. -/
theorem reentry_answers (stateless : backend.IsStateless) (session : Session σ)
    (fragment : Ir.Fragment) (state : Recovery σ) :
    Ends (reentryPoint? backend settings fragment) state
      (fun answer after => (∃ session, after = { state with session }) ∧
        ∀ address, answer = some address ↔ backend.exitCall? fragment = some address ∧
          backend.ProbesEntry address settings.probeStepBudget session)
      fun _ after => (∃ session, after = { state with session }) ∧
        ∀ address, backend.exitCall? fragment = some address →
          ¬backend.ProbesEntry address settings.probeStepBudget session := by
  unfold reentryPoint?
  cases backend.exitCall? fragment with
  | none => exact ⟨⟨_, rfl⟩, fun address => by simp⟩
  | some address =>
      rw [ends_bind, ends_inSession]
      refine (SessionM.probeEntry_answers stateless session _).imp ?_ ?_
      · rintro found after answers
        refine ⟨⟨_, rfl⟩, fun other => ?_⟩
        cases found with
        | true =>
            have enters := answers.mp rfl
            simp only [if_true, Option.some.injEq]
            exact ⟨fun same => ⟨same, same ▸ enters⟩, And.left⟩
        | false =>
            have stays := mt answers.mpr Bool.false_ne_true
            simp only [Bool.false_eq_true, if_false, reduceCtorEq, Option.some.injEq, false_iff]
            rintro ⟨rfl, enters⟩
            exact stays enters
      · rintro fault after stays
        refine ⟨⟨_, rfl⟩, fun other same => ?_⟩
        cases same
        exact stays

/-- A block is lifted if it is in the graph and there is a lift. -/
theorem liftBlockAt_lifts (backend : Backend σ) (block : Position) (state : Recovery σ) :
    Ends (liftBlockAt backend block) state
      (fun fragment after => (∃ session, after = { state with session }) ∧
        ∀ other, backend.LiftsBlock state block other ↔ fragment = other)
      fun _ after => (∃ session, after = { state with session }) ∧
        ∀ other, ¬backend.LiftsBlock state block other := by
  rw [liftBlockAt, ends_bind, ends_get]
  unfold Backend.LiftsBlock
  cases state.graph.block? block with
  | none => exact ⟨⟨_, rfl⟩, fun other => by simp⟩
  | some recovered =>
      dsimp only
      rw [ends_inSession, SessionM.liftBlock, ends_bind, SessionM.call, ends_modifyGet]
      cases lifted : (backend.liftBlock recovered state.session.host).1 with
      | none => exact ⟨⟨_, rfl⟩, fun other => by simp [lifted]⟩
      | some fragment => exact ⟨⟨_, rfl⟩, fun other => by simp [lifted]⟩

/-- Leaving for a target records the call if the probe answers so. -/
theorem leaveFor_recordsCall (settings : Settings) (stateless : backend.IsStateless)
    (session : Session σ) (fragment : Ir.Fragment) (state : Recovery σ) {block : Position}
    (exit : Position) (target : UInt64) {owner : Block}
    (present : state.graph.block? block = some owner) :
    RecordsCall (leaveFor backend settings fragment block exit target) state block exit
      fun leaves address => leaves = target ∧ backend.exitCall? fragment = some address ∧
        backend.ProbesEntry address settings.probeStepBudget session := by
  rw [RecordsCall, leaveFor, ends_bind]
  refine (reentry_answers stateless session fragment state).imp ?_ ?_
  · rintro answer _ ⟨⟨probing, rfl⟩, reenters⟩
    cases answer with
    | some address =>
        rw [ends_bind]
        refine ends_tryGraph _ (fun graph changing changed => ?_) fun fault refused => ?_
        · exact .inl ⟨target, address, ⟨rfl, (reenters address).mp rfl⟩, changed, rfl⟩
        · rw [Graph.appendInstruction, present] at refused
          cases refused
    | none =>
        have stays : ∀ leaves address, ¬(leaves = target ∧
            backend.exitCall? fragment = some address ∧
              backend.ProbesEntry address settings.probeStepBudget session) := by
          rintro leaves address ⟨-, comesBack⟩
          cases (reenters address).mpr comesBack
        dsimp only
        split
        · rw [ends_bind]
          exact ends_changeGraph _ fun linking => .inr ⟨stays, Graph.blocks_link _, rfl⟩
        · exact .inr ⟨stays, rfl, rfl⟩
  · rintro fault _ ⟨⟨probing, rfl⟩, stays⟩
    exact ⟨fun _ address comesBack => stays address comesBack.2.1 comesBack.2.2, rfl, rfl⟩

/-- Following an exit records the call if the lift of its block tells where the code comes back and
the probe answers so. -/
theorem executeExit_recordsCall (stateless : backend.IsStateless) (session : Session σ)
    (state : Recovery σ) (block exit : Position) :
    RecordsCall (executeExit backend settings block exit) state block exit
      fun target address => backend.CallsBack state block target address ∧
        backend.ProbesEntry address settings.probeStepBudget session := by
  rw [RecordsCall, executeExit, ends_bind]
  refine (liftBlockAt_lifts backend block state).imp ?_ ?_
  · rintro fragment _ ⟨⟨lifting, rfl⟩, lifts⟩
    have callsBack : ∀ target address, backend.CallsBack state block target address ↔
        backend.branchTargets fragment = [target] ∧ target ≠ 0 ∧
          backend.exitCall? fragment = some address := by
      intro target address
      simp [Backend.CallsBack, lifts]
    obtain ⟨owner, present, -⟩ := (lifts fragment).mpr rfl
    cases leads : backend.branchTargets fragment with
    | nil => exact .inr ⟨by simp [callsBack, leads], rfl, rfl⟩
    | cons target others =>
        cases others with
        | cons => exact .inr ⟨by simp [callsBack, leads], rfl, rfl⟩
        | nil =>
            dsimp only
            split
            · rename_i isSet
              have leaves := leaveFor_recordsCall settings stateless session fragment
                { state with session := lifting } exit target present
              refine leaves.congr fun other address => ?_
              rw [bne_iff_ne] at isSet
              rw [callsBack, leads, List.singleton_inj]
              constructor
              · rintro ⟨rfl, calls, enters⟩
                exact ⟨⟨rfl, isSet, calls⟩, enters⟩
              · rintro ⟨⟨rfl, -, calls⟩, enters⟩
                exact ⟨rfl, calls, enters⟩
            · rename_i isUnset
              exact .inr ⟨by simp_all, rfl, rfl⟩
  · rintro fault _ ⟨⟨lifting, rfl⟩, missing⟩
    refine ⟨?_, rfl, rfl⟩
    rintro target address ⟨⟨fragment, lifts, -⟩, -⟩
    exact missing fragment lifts

end RecoveryM

/-- With stateless collaborators and equal budgets, the probe of an address and a job that enters
there, when nothing has been observed before, go along the same walk and begin with the same node.
The job recognises the entry routine at once if and only if what it looks at, which is this node
unless that is a key push, is lifted to an entry. If the node is no key push, then the probe tells
whether the context is spilled, and the job recognises the entry routine if and only if the probe
does and the save area is found. An exit is recorded as a call, and a job that enters behind the
call is queued, if and only if the probe answers so. -/
theorem probe_foretells_entry (stateless : backend.IsStateless)
    (equalBudgets : settings.probeStepBudget = settings.entryStepBudget) (state : Recovery σ)
    (unobserved : state.grouping = {}) (address : UInt64) (source : Option Position) :
    let job := Job.entering address source
    let host := state.session.host
    let firstNode := backend.firstNode address settings.entryStepBudget host
    let soughtNode := backend.soughtNode address settings.entryStepBudget host
    let probes := fun address =>
      backend.ProbesEntry address settings.probeStepBudget state.session
    Ends (SessionM.startWalk backend {} (backend.defaultSnapshot address)
          settings.probeStepBudget) state.session
        (fun (walker, grouping) _ => firstNode = .ok (walker.current grouping))
        (fun fault _ => firstNode = .error fault) ∧
      Ends (launch backend settings job) state
        (fun walk launched => firstNode = .ok (walk.walker.current launched.grouping))
        (fun fault _ => firstNode = .error fault) ∧
      (RecognisesEntry backend settings job state ↔
        ∃ fragment, backend.lifted? host soughtNode = some fragment ∧
          (fragment.entry? backend.defaultStackPointer).isSome) ∧
      ((∀ node, firstNode = .ok node → node.isKeyPush backend.decoder = false) →
        soughtNode = firstNode ∧
        (probes address ↔ ∃ fragment, backend.lifted? host firstNode = some fragment ∧
          fragment.savedContext?.isSome) ∧
        (RecognisesEntry backend settings job state ↔ probes address ∧
          ∃ fragment, backend.lifted? host firstNode = some fragment ∧
            (fragment.saveArea? backend.defaultStackPointer).isSome)) ∧
      ∀ reached block exit,
        RecordsCall (executeExit backend settings block exit) reached block exit
          fun target address => backend.CallsBack reached block target address ∧
            probes address := by
  intro job host firstNode soughtNode probes
  have recognises : RecognisesEntry backend settings job state ↔
      ∃ fragment, backend.lifted? host soughtNode = some fragment ∧
        (fragment.entry? backend.defaultStackPointer).isSome :=
    recognisesEntry_iff stateless unobserved
  refine ⟨?_, ?_, recognises, fun plain => ?_,
    fun reached block exit => executeExit_recordsCall stateless state.session reached block exit⟩
  · rw [equalBudgets]
    exact (SessionM.startWalk_firstWalk backend address _ state.session).imp
      (fun _ _ => Backend.firstNode_of_ok) fun _ _ => Backend.firstNode_of_error
  · exact (launch_firstWalk backend settings address source unobserved).imp
      (fun _ _ begins => Backend.firstNode_of_ok begins.2) fun _ _ => Backend.firstNode_of_error
  · -- Without a key push both have lifted the same node, so that only the save area is left.
    have alone : soughtNode = firstNode := Backend.soughtNode_eq_firstNode plain
    have answers : probes address ↔
        ∃ fragment, backend.lifted? host firstNode = some fragment ∧
          fragment.savedContext?.isSome := by
      simp only [probes, firstNode, ← equalBudgets]
      exact SessionM.probesEntry_iff stateless state.session
    refine ⟨alone, answers, ?_⟩
    rw [recognises, answers, alone]
    constructor
    · rintro ⟨fragment, lifts, isEntry⟩
      obtain ⟨spills, reserves⟩ := (fragment.isSome_entry_iff _).mp isEntry
      exact ⟨⟨fragment, lifts, spills⟩, fragment, lifts, reserves⟩
    · rintro ⟨⟨fragment, lifts, spills⟩, other, lifts', reserves⟩
      cases lifts.symm.trans lifts'
      exact ⟨fragment, lifts, (fragment.isSome_entry_iff _).mpr ⟨spills, reserves⟩⟩

section Witness

open Simulation

/-- The settings under which a probe goes as far as a job. -/
def farProbing : Settings :=
  { probeStepBudget := 0x10000 }

/-- An entry routine is foretold and recognised. -/
theorem probe_foretells_dispatcher :
    (dispatcher 0x30).backend.ProbesEntry 0x10 farProbing.probeStepBudget { host := {} } ∧
      RecognisesEntry (dispatcher 0x30).backend farProbing (.entering 0x10 none)
        (.initial {} {}) := by
  have stateless : (dispatcher 0x30).backend.IsStateless := isStateless_backend rfl
  have equalBudgets : farProbing.probeStepBudget = farProbing.entryStepBudget := rfl
  have plain : ((dispatcher 0x30).backend.firstNode 0x10 0x10000 {}).map
      (Occurrence.isKeyPush · (dispatcher 0x30).backend.decoder) = .ok false := by
    cbv
  have lifted : (dispatcher 0x30).backend.lifted? {}
      ((dispatcher 0x30).backend.firstNode 0x10 0x10000 {}) = some (entryRoutine 0x10 0xf00) := by
    cbv
  obtain ⟨-, -, -, foretells, -⟩ :=
    probe_foretells_entry stateless equalBudgets (.initial {} {}) rfl 0x10 none
  obtain ⟨-, probes, recognises⟩ := foretells fun node begins => by
    replace begins : (dispatcher 0x30).backend.firstNode 0x10 0x10000 {} = .ok node := begins
    rw [begins] at plain
    exact Except.ok.inj plain
  have foretold := probes.mpr ⟨_, lifted, by cbv⟩
  exact ⟨foretold, recognises.mpr ⟨foretold, _, lifted, by cbv⟩⟩

/-- Native code that pushes a key and calls an entry routine. The routine is lifted together with
the key push only. Without it, the lift tells nothing of the save area. -/
def keyedEntry : Scenario where
  stackPointer := 0x1000
  registers := {}
  memory := []
  code := [⟨0x8, some 0x9, []⟩, ⟨0x9, some 0x10, []⟩, ⟨0x10, some 0x11, []⟩, ⟨0x11, some 0x20, []⟩]
  failing := []
  lifts :=
    [⟨0x8, some 0x9, some { entry := 0x8 }⟩,
      ⟨0x8, some 0x11, some (entryRoutine 0x8 0xfffffff0)⟩,
      ⟨0x10, none, some { entryRoutine 0x10 0xfffffff0 with returns := [] }⟩]
  blockLifts := []
  branches := []
  known := []
  decoder :=
    (Native.Table.ofList
      [{ address := 0x8, mnemonic := .push, operands := [⟨.immediate 7, 4⟩] },
        { address := 0x9, mnemonic := .call, operands := [⟨.immediate 0x10, 4⟩] },
        { address := 0x11, mnemonic := .ret }]).decoder

/-- At the routine itself the probe foretells an entry that the job does not recognise, and at the
key push the job recognises the entry that the probe has denied. -/
theorem probe_differs_from_entry :
    keyedEntry.backend.IsStateless ∧
      farProbing.probeStepBudget = farProbing.entryStepBudget ∧
      (Recovery.initial ({} : Host) {}).grouping = {} ∧
      (keyedEntry.backend.ProbesEntry 0x10 farProbing.probeStepBudget { host := {} } ∧
        ¬RecognisesEntry keyedEntry.backend farProbing (.entering 0x10 none) (.initial {} {})) ∧
      ¬keyedEntry.backend.ProbesEntry 0x8 farProbing.probeStepBudget { host := {} } ∧
        RecognisesEntry keyedEntry.backend farProbing (.entering 0x8 none) (.initial {} {}) := by
  have stateless : keyedEntry.backend.IsStateless := isStateless_backend rfl
  have routine : keyedEntry.backend.lifted? {} (keyedEntry.backend.firstNode 0x10 0x10000 {}) =
      some { entryRoutine 0x10 0xfffffff0 with returns := [] } := by
    cbv
  have soughtRoutine : ((keyedEntry.backend.lifted? {}
      (keyedEntry.backend.soughtNode 0x10 0x10000 {})).bind fun fragment =>
        fragment.entry? 0x1000) = none := by
    cbv
  have key : ((keyedEntry.backend.lifted? {}
      (keyedEntry.backend.firstNode 0x8 0x10000 {})).bind fun fragment =>
        fragment.savedContext?) = none := by
    cbv
  have soughtKey : keyedEntry.backend.lifted? {} (keyedEntry.backend.soughtNode 0x8 0x10000 {}) =
      some (entryRoutine 0x8 0xfffffff0) := by
    cbv
  refine ⟨stateless, rfl, rfl, ⟨?_, ?_⟩, ?_, ?_⟩
  · exact (SessionM.probesEntry_iff stateless _).mpr ⟨_, routine, by cbv⟩
  · rw [recognisesEntry_iff stateless rfl]
    rintro ⟨fragment, lifts, isEntry⟩
    replace lifts : keyedEntry.backend.lifted? {}
        (keyedEntry.backend.soughtNode 0x10 0x10000 {}) = some fragment := lifts
    rw [lifts] at soughtRoutine
    exact Option.isSome_iff_ne_none.mp isEntry soughtRoutine
  · rw [SessionM.probesEntry_iff stateless]
    rintro ⟨fragment, lifts, spills⟩
    replace lifts : keyedEntry.backend.lifted? {}
        (keyedEntry.backend.firstNode 0x8 0x10000 {}) = some fragment := lifts
    rw [lifts] at key
    exact Option.isSome_iff_ne_none.mp spills key
  · exact (recognisesEntry_iff stateless rfl).mpr ⟨_, soughtKey, by cbv⟩

end Witness

end Flow

end VmRecovery

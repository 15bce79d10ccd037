import VmRecovery.Proofs.Flow.Find

/-!
# The backdrop of a recovery

The patterns that a recovery knows and what its collaborators keep stand behind everything else
in its state. If the collaborators are stateless, all that a recovery does is blind for this
backdrop, except that it looks patterns up when it reads a handler (`verdictOf`): over another
backdrop an action has the same answer and leaves the same state in front of it. The lemmas
below state so for every action from `note` to `launch` and `settle`, in the order of the calls.
-/

namespace VmRecovery

open VmRecovery.Flow Handler Machine Trace

variable {σ α β : Type} {backend : Backend σ}

/-- Collaborators whose answers depend on nothing that they keep. -/
structure Backend.IsStateless (backend : Backend σ) : Prop where
  run : ∀ snapshot budget host host',
    (backend.run snapshot budget host).1 = (backend.run snapshot budget host').1
  liftOccurrence : ∀ occurrence host host',
    (backend.liftOccurrence occurrence host).1 = (backend.liftOccurrence occurrence host').1
  liftBlock : ∀ block host host',
    (backend.liftBlock block host).1 = (backend.liftBlock block host').1

namespace SessionM

/-- An action whose answer does not depend on the session. -/
def Steady (action : SessionM σ α) : Prop :=
  ∀ session session', (action.run.run session).1 = (action.run.run session').1

namespace Steady

theorem pure (answer : α) : Steady (pure answer : SessionM σ α) := fun _ _ => rfl

theorem throw (fault : Fault) : Steady (throw fault : SessionM σ α) := fun _ _ => rfl

/-- Notices are added whatever the session has noted before. -/
theorem noteAll (notices : List Notice) : Steady (noteAll notices : SessionM σ Unit) :=
  fun _ _ => rfl

/-- Steady actions are steady one behind the other. -/
theorem bind {action : SessionM σ α} {next : α → SessionM σ β} (first : Steady action)
    (second : ∀ answer, Steady (next answer)) : Steady (action >>= next) := by
  intro session session'
  have same := first session session'
  rw [run_run_bind, run_run_bind]
  generalize action.run.run session = outcome at same
  generalize action.run.run session' = outcome' at same
  obtain ⟨fault | answer, after⟩ := outcome
  · obtain ⟨_, after'⟩ := outcome'
    cases same
    rfl
  · obtain ⟨_, after'⟩ := outcome'
    cases same
    exact second answer after after'

/-- A call whose answer does not depend on what the collaborators keep. -/
theorem call {operation : σ → α × σ}
    (stateless : ∀ host host', (operation host).1 = (operation host').1) :
    Steady (call operation) :=
  fun session session' => congrArg Except.ok (stateless session.host session'.host)

/-- A stateless engine runs the same from every session. -/
theorem execute (stateless : backend.IsStateless) (snapshot : Snapshot) (budget : Nat) :
    Steady (execute backend snapshot budget) := by
  refine (call (stateless.run snapshot budget)).bind fun answer => ?_
  split
  · exact .pure _
  · exact .throw _

/-- A stateless lifter lifts an occurrence the same from every session. -/
theorem lift (stateless : backend.IsStateless) (occurrence : Occurrence) (start : UInt64) :
    Steady (lift backend occurrence start) := by
  refine (call (stateless.liftOccurrence occurrence)).bind fun answer => ?_
  split
  · exact .pure _
  · exact .throw _

/-- A stateless lifter lifts a block the same from every session. -/
theorem liftBlock (stateless : backend.IsStateless) (block : Block) :
    Steady (liftBlock backend block) := by
  refine (call (stateless.liftBlock block)).bind fun answer => ?_
  split
  · exact .pure _
  · exact .throw _

/-- A walk starts on the trace that a stateless engine records, whatever was asked before. -/
theorem startWalk (stateless : backend.IsStateless) (grouping : Grouping) (snapshot : Snapshot)
    (budget : Nat) : Steady (startWalk backend grouping snapshot budget) := by
  refine (execute stateless snapshot budget).bind fun run => ?_
  refine ((noteAll _).bind fun _ => (noteAll _).bind fun _ => .pure _).bind fun renewed => ?_
  exact (noteAll _).bind fun _ => .pure _

/-- A probe runs and lifts, so its answer is steady as well. -/
theorem probeEntry (stateless : backend.IsStateless) (address : UInt64) (budget : Nat) :
    Steady (probeEntry backend address budget) := by
  refine (startWalk stateless _ _ _).bind fun (walker, grouping) => ?_
  dsimp only
  split
  · exact .pure _
  · exact (lift stateless _ _).bind fun fragment => (noteAll _).bind fun _ => .pure _

/-- The battery has no access to the session except for its notices. -/
theorem classify (decoder : Native.Decoder) (site : Site) :
    Steady (classify decoder site : SessionM σ Verdict) :=
  (noteAll _).bind fun _ => .pure _

end Steady

end SessionM

namespace Flow

/-- What stands behind a recovery: the collaborators, the patterns it knows, and the counts of
their use that it has reported. -/
structure Backdrop (σ : Type) where
  session : Session σ
  cache : Cache
  cacheHits : Nat
  cacheMisses : Nat

/-- A recovery over another backdrop. -/
def Recovery.over (state : Recovery σ) (backdrop : Backdrop σ) : Recovery σ :=
  { state with
    session := backdrop.session
    cache := backdrop.cache
    report := { state.report with
      cacheHits := backdrop.cacheHits
      cacheMisses := backdrop.cacheMisses } }

/-- An action that has the same answer over every backdrop and leaves the same state in front of
it. The patterns that are known stay the same. -/
def Blind (action : RecoveryM σ α) : Prop :=
  ∀ state,
    (∀ backdrop, ∃ session, action.run.run (state.over backdrop) =
      ((action.run.run state).1, (action.run.run state).2.over { backdrop with session })) ∧
    (action.run.run state).2.cache = state.cache

namespace Blind

open RecoveryM

theorem pure (answer : α) : Blind (pure answer : RecoveryM σ α) :=
  fun _ => ⟨fun backdrop => ⟨backdrop.session, rfl⟩, rfl⟩

theorem throw (fault : Fault) : Blind (throw fault : RecoveryM σ α) :=
  fun _ => ⟨fun backdrop => ⟨backdrop.session, rfl⟩, rfl⟩

/-- What stands behind a fault is not done. -/
theorem throw_bind (fault : Fault) (next : α → RecoveryM σ β) :
    Blind (MonadExcept.throw fault >>= next) :=
  fun _ => ⟨fun backdrop => ⟨backdrop.session, rfl⟩, rfl⟩

/-- Blind actions are blind one behind the other: the second starts in front of the same state, over
whatever session the first has left. -/
theorem bind {action : RecoveryM σ α} {next : α → RecoveryM σ β} (first : Blind action)
    (second : ∀ answer, Blind (next answer)) : Blind (action >>= next) := by
  intro state
  obtain ⟨same, kept⟩ := first state
  rw [run_run_bind]
  generalize action.run.run state = outcome at same kept
  obtain ⟨fault | answer, after⟩ := outcome
  · refine ⟨fun backdrop => ?_, kept⟩
    obtain ⟨session, ran⟩ := same backdrop
    exact ⟨session, by rw [run_run_bind, ran]⟩
  · obtain ⟨same', kept'⟩ := second answer after
    refine ⟨fun backdrop => ?_, kept'.trans kept⟩
    obtain ⟨session, ran⟩ := same backdrop
    obtain ⟨session', ran'⟩ := same' { backdrop with session }
    refine ⟨session', ?_⟩
    rw [run_run_bind, ran]
    exact ran'

/-- An action that reads nothing off the backdrop. -/
theorem read {next : Recovery σ → RecoveryM σ α}
    (unseen : ∀ state backdrop, next (state.over backdrop) = next state)
    (blind : ∀ state, Blind (next state)) : Blind (get >>= next) := by
  intro state
  obtain ⟨same, kept⟩ := blind state state
  refine ⟨fun backdrop => ?_, kept⟩
  obtain ⟨session, ran⟩ := same backdrop
  refine ⟨session, ?_⟩
  rw [run_run_bind, run_run_bind]
  have sameNext := congrArg (fun action => action.run.run (state.over backdrop))
    (unseen state backdrop)
  exact sameNext.trans ran

/-- A change in front of the backdrop. -/
theorem change {change : Recovery σ → Recovery σ}
    (inFront : ∀ state backdrop, change (state.over backdrop) = (change state).over backdrop)
    (kept : ∀ state, (change state).cache = state.cache) :
    Blind (modify change : RecoveryM σ Unit) :=
  fun state => ⟨fun backdrop =>
    ⟨backdrop.session, congrArg (Prod.mk (Except.ok ())) (inFront state backdrop)⟩, kept state⟩

/-- A steady call of a collaborator is blind. -/
theorem inSession {action : SessionM σ α} (steady : SessionM.Steady action) :
    Blind (inSession action) :=
  fun state => ⟨fun backdrop => ⟨_, Prod.ext (steady backdrop.session state.session) rfl⟩, rfl⟩

/-- A notice changes nothing in front of the backdrop. -/
theorem note (notice : Notice) : Blind (note notice : RecoveryM σ Unit) :=
  inSession (.noteAll _)

/-- A count other than those of the cache stands in front of the backdrop. -/
theorem count {change : Report → Report}
    (inFront : ∀ report cacheHits cacheMisses, change { report with cacheHits, cacheMisses } =
      { change report with cacheHits, cacheMisses }) : Blind (count change : RecoveryM σ Unit) :=
  .change
    (fun state backdrop => congrArg (fun report => { state.over backdrop with report })
      (inFront state.report backdrop.cacheHits backdrop.cacheMisses))
    fun _ => rfl

/-- The selection stands in front of the backdrop. -/
theorem setSelection (selection : Selection) :
    Blind (setSelection selection : RecoveryM σ Unit) :=
  .change (fun _ _ => rfl) fun _ => rfl

/-- The queue stands in front of the backdrop. -/
theorem enqueue (job : Job) : Blind (enqueue job : RecoveryM σ Unit) :=
  .change (fun _ _ => rfl) fun _ => rfl

/-! The graph. -/

/-- The graph stands in front of the backdrop, and what its log gains is only noted. -/
theorem setGraph (graph : Graph) : Blind (setGraph graph : RecoveryM σ Unit) := by
  refine .read (fun _ _ => rfl) fun state => ?_
  dsimp only
  refine (Blind.change ?_ ?_).bind fun _ => inSession (.noteAll _)
  · exact fun _ _ => rfl
  · exact fun _ => rfl

/-- A change of the graph depends on the graph alone. -/
theorem changeGraph (change : Graph → α × Graph) :
    Blind (changeGraph change : RecoveryM σ α) :=
  .read (fun _ _ => rfl) fun _ => (setGraph _).bind fun _ => .pure _

/-- Whether a change of the graph succeeds depends on the graph alone. -/
theorem tryGraph (change : Graph → Except Fault Graph) :
    Blind (tryGraph change : RecoveryM σ Unit) := by
  refine .read (fun _ _ => rfl) fun state => ?_
  split
  · exact setGraph _
  · exact .throw _

/-- A block is opened or turned down by what the graph says of its owner. -/
theorem openBlock (walk : Walk) (position : Position) :
    Blind (openBlock walk position : RecoveryM σ (Option Position)) := by
  have claims : Blind (do
      if ← RecoveryM.changeGraph fun graph => graph.claim position then
        RecoveryM.tryGraph fun graph => graph.createBlock position
        return some position
      else
        RecoveryM.note (.alreadyVisited position)
        return none : RecoveryM σ (Option Position)) := by
    refine (changeGraph _).bind fun isFree => ?_
    split
    · exact (tryGraph _).bind fun _ => .pure _
    · exact (note _).bind fun _ => .pure _
  unfold RecoveryM.openBlock
  split
  · exact .pure _
  · split
    · exact (changeGraph _).bind fun _ => claims
    · exact claims

/-- An instruction is recorded by what the graph says. -/
theorem record (walk : Walk) (instruction : Instruction) :
    Blind (record walk instruction : RecoveryM σ (Option Position)) := by
  refine (openBlock walk _).bind fun block? => ?_
  split
  · exact .pure _
  · exact (note _).bind fun _ => (tryGraph _).bind fun _ => .pure _

/-! The effects of an instruction. -/

variable (stateless : backend.IsStateless)

include stateless

/-- Running a walk again is a steady call of the engine. -/
theorem replay (snapshot : Snapshot) (steps : Nat) : Blind (replay backend snapshot steps) :=
  (inSession (.execute stateless _ _)).bind fun _ => .pure _

/-- A block of the graph is lifted by a steady call of the lifter. -/
theorem liftBlockAt (start : Position) : Blind (liftBlockAt backend start) := by
  refine .read (fun _ _ => rfl) fun state => ?_
  split
  · exact .throw _
  · exact inSession (.liftBlock stateless _)

omit stateless in
/-- The job that resumes behind a block is announced and queued without a look at the backdrop. -/
theorem resume (snapshot : Snapshot) (source : Position) :
    Blind (resume snapshot source : RecoveryM σ Unit) :=
  (note _).bind fun _ => enqueue _

/-- The rest of a walk is queued without a look at the backdrop. -/
theorem continueBehind (walk : Walk) (block : Position) :
    Blind (continueBehind backend walk block) :=
  (replay stateless _ _).bind fun _ => resume _ _

omit stateless in
/-- A pair is adopted by comparison with the selection, which stands in front. -/
theorem reveal (pair : RegisterPair) : Blind (reveal pair : RecoveryM σ Unit) := by
  refine .read (fun _ _ => rfl) fun state => ?_
  split
  · exact setSelection _
  · exact note _

/-- Whether a target can be forced depends on the snapshot alone. -/
theorem fork (snapshot : Snapshot) (length : Nat) (stack : String) (block : Position)
    (target : UInt64) : Blind (fork backend snapshot length stack block target) := by
  unfold RecoveryM.fork
  split
  · exact note _
  · exact (note _).bind fun _ => (replay stateless _ _).bind fun _ => resume _ _

/-- A jump is executed by the lifted block and the selection. -/
theorem executeJmp (walk : Walk) (occurrence : Occurrence) (block : Position) :
    Blind (executeJmp backend walk occurrence block) := by
  refine (liftBlockAt stateless block).bind fun fragment => ?_
  dsimp only
  split
  · exact (continueBehind stateless _ _).bind fun _ => setSelection _
  · refine .read (fun _ _ => rfl) fun state => ?_
    split
    · exact (note _).bind fun _ => setSelection _
    · exact (replay stateless _ _).bind fun _ => (fork stateless _ _ _ _ _).bind fun _ =>
        (fork stateless _ _ _ _ _).bind fun _ => setSelection _
  · exact (note _).bind fun _ => setSelection _

/-- Whether the code behind an exit enters the machine again is found out by a steady probe. -/
theorem reentryPoint? (settings : Settings) (fragment : Ir.Fragment) :
    Blind (reentryPoint? backend settings fragment) := by
  unfold RecoveryM.reentryPoint?
  split
  · exact .pure _
  · exact (inSession (.probeEntry stateless _ _)).bind fun _ => .pure _

/-- A block is left through a call or for good without a look at the backdrop. -/
theorem leaveFor (settings : Settings) (fragment : Ir.Fragment) (block exit : Position)
    (target : UInt64) : Blind (leaveFor backend settings fragment block exit target) := by
  refine (reentryPoint? stateless settings fragment).bind fun reentry => ?_
  split
  · exact (tryGraph _).bind fun _ => (note _).bind fun _ => enqueue _
  · split
    · exact (changeGraph _).bind fun _ => .pure _
    · exact .pure _

/-- An exit is executed by the lifted block and what is found behind it. -/
theorem executeExit (settings : Settings) (block exit : Position) :
    Blind (executeExit backend settings block exit) := by
  refine (liftBlockAt stateless block).bind fun fragment => ?_
  split
  · split
    · exact leaveFor stateless settings _ _ _ _
    · exact .pure _
  · exact note _

/-- No effect of an instruction looks at the backdrop. -/
theorem applyEffect (settings : Settings) (walk : Walk) (occurrence : Occurrence)
    (block : Position) (instruction : Instruction) :
    Blind (applyEffect backend settings walk occurrence block instruction) := by
  unfold RecoveryM.applyEffect
  split
  · exact continueBehind stateless _ _
  · exact reveal _
  · exact executeJmp stateless _ _ _
  · exact continueBehind stateless _ _
  · exact executeExit stateless _ _ _
  · exact .pure _

/-- What is done about a find does not depend on the backdrop. -/
theorem afterInspection (settings : Settings) (answer : Walk × Option Find) :
    Blind (afterInspection backend settings answer) := by
  obtain ⟨walk, find?⟩ := answer
  unfold RecoveryM.afterInspection
  split
  · exact .pure _
  · refine Blind.bind ?_ fun _ => .pure _
    refine (record _ _).bind fun block? => ?_
    split
    · exact .pure _
    · exact (applyEffect stateless _ _ _ _ _).bind fun _ => .pure _

/-! Reading an occurrence. -/

omit stateless in
/-- The next occurrence is found in the trace of the walk and the grouping. -/
theorem nextOccurrence (walk : Walk) :
    Blind (nextOccurrence walk : RecoveryM σ (Occurrence × Walk)) := by
  unfold RecoveryM.nextOccurrence
  split
  · exact .throw_bind _ _
  · refine .read (fun _ _ => rfl) fun state => ?_
    dsimp only
    split
    · exact .throw_bind _ _
    · exact .pure _

omit stateless in
/-- A key push is joined by a look at the grouping and the decoder. -/
theorem joinKeyPush (occurrence : Occurrence) (walk : Walk) :
    Blind (joinKeyPush backend occurrence walk) := by
  refine (inSession (.noteAll _)).bind fun _ => ?_
  split
  · exact .read (fun _ _ => rfl) fun state => .pure _
  · exact .pure _

/-- An entry is told by its lifted occurrence, not by any pattern. -/
theorem inspectEntry (walk : Walk) : Blind (inspectEntry backend walk) := by
  refine (nextOccurrence walk).bind fun (occurrence, looked) => ?_
  refine (joinKeyPush occurrence looked).bind fun (joined, walk') => ?_
  dsimp only
  split
  · exact .throw _
  · refine (inSession (.lift stateless _ _)).bind fun fragment => ?_
    split
    · exact (note _).bind fun _ => .pure _
    · refine (Blind.change ?_ ?_).bind fun _ => (note _).bind fun _ => .pure _
      · exact fun _ _ => rfl
      · exact fun _ => rfl

omit stateless in
/-- Once a pattern is at hand, its operation is read without the cache. -/
theorem readBy (walk : Walk) (occurrence : Occurrence) (start : UInt64) (pattern : Pattern) :
    Blind (readBy backend walk occurrence start pattern) := by
  refine .read (fun _ _ => rfl) fun state => (inSession (.noteAll _)).bind fun _ => ?_
  split
  · exact .pure _
  · exact (note _).bind fun _ => .pure _

omit stateless in
/-- An unknown handler is counted and reported in front of the backdrop. -/
theorem readUnknown (walk : Walk) (occurrence : Occurrence) :
    Blind (readUnknown walk occurrence : RecoveryM σ (Walk × Option Find)) := by
  refine .read (fun _ _ => rfl) fun state => ?_
  exact (count fun _ _ _ => rfl).bind fun _ => (note _).bind fun _ => .pure _

/-! The course of a job. -/

/-- A job is launched by a steady start of its walk. -/
theorem launch (settings : Settings) (job : Job) : Blind (launch backend settings job) := by
  refine (count fun _ _ _ => rfl).bind fun _ => .read (fun _ _ => rfl) fun state => ?_
  refine (note _).bind fun _ => (setSelection _).bind fun _ => ?_
  refine Blind.bind ?_ fun _ => .pure _
  refine .read (fun _ _ => rfl) fun state => ?_
  refine (inSession (.startWalk stateless _ _ _)).bind fun (walker, grouping) => ?_
  refine (Blind.change ?_ ?_).bind fun _ => .pure _
  · exact fun _ _ => rfl
  · exact fun _ => rfl

omit stateless in
/-- A job is settled by its outcome alone. -/
theorem settle (outcome : Except Fault Unit) : Blind (settle outcome : RecoveryM σ Unit) := by
  cases outcome with
  | ok answer => exact (count fun _ _ _ => rfl).bind fun _ => note _
  | error fault =>
      have counted : Blind (do
          RecoveryM.count fun report => { report with tasksFailed := report.tasksFailed + 1 }
          RecoveryM.note (.jobFailed fault) : RecoveryM σ Unit) :=
        (count fun _ _ _ => rfl).bind fun _ => note _
      simp only [RecoveryM.settle]
      split
      · exact (throw _).bind fun _ => counted
      · exact counted

end Blind

end Flow

end VmRecovery

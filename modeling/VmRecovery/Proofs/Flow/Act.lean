import VmRecovery.Proofs.Flow.Find

/-!
# What a job does and reports

A job reports what it does right where it does it. `Act` lists the ways in which a job changes a
recovery, each with the notices that come with it, and `turn_acts` states that every turn is a
sequence of acts, whether it succeeds or fails. What ties the notices to the state therefore has
to be checked act by act only. Launching a job (`launch_acts`) and settling it (`settle_closes`)
are told apart from the acts of its turns.
-/

namespace VmRecovery

open VmRecovery.Flow Handler Machine Native Trace

variable {σ α β : Type} {backend : Backend σ}

/-- A session has reported more notices. -/
def Session.Reports (session after : Session σ) (notices : List Notice) : Prop :=
  after.notices.toList = session.notices.toList ++ notices

namespace Session.Reports

variable {session middle after : Session σ} {notices further : List Notice}

/-- The notices of a session that has reported more are its earlier ones with the new ones behind
them. -/
theorem toList_eq (reports : session.Reports after notices) :
    after.notices.toList = session.notices.toList ++ notices :=
  reports

/-- A session that stays as it is has reported nothing. -/
theorem refl (session : Session σ) : session.Reports session [] :=
  (List.append_nil _).symm

/-- What is reported in two stretches is reported in one, the first stretch first. -/
theorem trans (first : session.Reports middle notices) (second : middle.Reports after further) :
    session.Reports after (notices ++ further) := by
  rw [Reports, second.toList_eq, first.toList_eq, List.append_assoc]

/-- Appending notices to a session reports just these. -/
theorem noteAll (session : Session σ) (notices : List Notice) :
    session.Reports { session with notices := session.notices ++ notices } notices :=
  Array.toList_appendList

/-- Appending one notice reports just this one. -/
theorem note (session : Session σ) (notice : Notice) :
    session.Reports { session with notices := session.notices ++ [notice] } [notice] :=
  noteAll session [notice]

end Session.Reports

namespace Notice

/-- Whether a notice tells neither of the jobs nor of anything that is recorded. -/
def isRemark : Notice → Bool
  | changed _ => false
  | jobStarted _ _ => false
  | jobFinished => false
  | jobFailed _ => false
  | cacheHit _ _ => false
  | cacheConflict _ _ => false
  | unknownHandler _ _ => false
  | alreadyVisited _ => false
  | exitThroughCall _ _ => false
  | jobQueued _ => false
  | _ => true

/-- Whether a pattern was found in the cache, to be taken or not. -/
def isReuse : Notice → Bool
  | cacheHit _ _ => true
  | cacheConflict _ _ => true
  | _ => false

/-- How a job is announced: as one that resumes behind a block, or as the re-entry behind a call
by which a block is left. -/
inductive Announces : Notice → Job → Prop where
  | resuming (snapshot : Snapshot) (source : Position) :
      Announces (.jobQueued (.resuming snapshot source)) (.resuming snapshot source)
  | reentering (target address : UInt64) (source : Position) :
      Announces (.exitThroughCall target address) (.entering address (some source))

end Notice

/-! Collaborators make remarks only. -/

namespace SessionM

/-- Only remarks are reported. -/
def Remarks (action : SessionM σ α) : Prop :=
  Relates (fun session after => ∃ reported : List Notice,
    (∀ notice ∈ reported, notice.isRemark = true) ∧ session.Reports after reported) action

namespace Remarks

theorem pure (answer : α) : Remarks (Pure.pure answer : SessionM σ α) :=
  fun session => ⟨[], by simp, .refl session⟩

theorem throw (fault : Fault) : Remarks (MonadExcept.throw fault : SessionM σ α) :=
  fun session => ⟨[], by simp, .refl session⟩

/-- Two actions that make remarks only make remarks only when one runs behind the other. -/
theorem bind {action : SessionM σ α} {next : α → SessionM σ β} (first : Remarks action)
    (second : ∀ answer, Remarks (next answer)) : Remarks (action >>= next) := by
  refine Relates.bind id ?_ first second
  rintro session middle after ⟨reported, remarks, reports⟩ ⟨more, remarksMore, reportsMore⟩
  refine ⟨reported ++ more, fun notice member => ?_, reports.trans reportsMore⟩
  exact (List.mem_append.mp member).elim (remarks notice) (remarksMore notice)

/-- Noting a list of remarks makes remarks only. -/
theorem noteAll {notices : List Notice} (remarks : ∀ notice ∈ notices, notice.isRemark = true) :
    Remarks (noteAll notices : SessionM σ Unit) :=
  fun session => ⟨notices, remarks, .noteAll session notices⟩

/-- Noting a remark makes remarks only. -/
theorem note {notice : Notice} (remark : notice.isRemark = true) :
    Remarks (note notice : SessionM σ Unit) :=
  noteAll (by simpa using remark)

/-- A call of the collaborator behind the session reports nothing. -/
theorem call (operation : σ → α × σ) : Remarks (call operation) :=
  fun session => ⟨[], by simp, Session.Reports.refl session⟩

/-- Every lookup of the decoder is reported by a remark. -/
theorem noteLookups (decoder : Decoder) (lookups : List UInt64) :
    Remarks (noteLookups decoder lookups : SessionM σ Unit) :=
  noteAll (by simp [Notice.isRemark])

/-- The engine is run with remarks about the run. -/
theorem execute (snapshot : Snapshot) (budget : Nat) :
    Remarks (execute backend snapshot budget) := by
  refine (call _).bind fun answer => ?_
  split
  · exact .pure _
  · exact .throw _

/-- An occurrence is lifted with remarks about its fragment. -/
theorem lift (occurrence : Occurrence) (start : UInt64) :
    Remarks (lift backend occurrence start) := by
  refine (call _).bind fun answer => ?_
  split
  · exact .pure _
  · exact .throw _

/-- A block is lifted with remarks about its fragment. -/
theorem liftBlock (block : Block) : Remarks (liftBlock backend block) := by
  refine (call _).bind fun answer => ?_
  split
  · exact .pure _
  · exact .throw _

/-- Running the engine and laying out its trace is reported by remarks. -/
theorem startWalk (grouping : Grouping) (snapshot : Snapshot) (budget : Nat) :
    Remarks (startWalk backend grouping snapshot budget) :=
  (execute _ _).bind fun _ =>
    ((noteLookups _ _).bind fun _ => (note rfl).bind fun _ => .pure _).bind fun _ =>
      (note rfl).bind fun _ => .pure _

/-- Probing an address for an entry is reported by remarks. -/
theorem probeEntry (address : UInt64) (budget : Nat) :
    Remarks (probeEntry backend address budget) := by
  refine (startWalk _ _ _).bind fun walk => ?_
  dsimp only
  split
  · exact .pure _
  · exact (lift _ _).bind fun _ => (note rfl).bind fun _ => .pure _

/-- What a matcher of the battery reports is a remark, whether it accepts or refuses. -/
theorem isRemark_attempt (entry : UInt64) (attempt : Attempt) :
    (attempt.notice entry).isRemark = true := by
  unfold Attempt.notice
  split <;> rfl

/-- Every attempt of the battery, and every lookup it makes, is reported by a remark. -/
theorem classify (decoder : Decoder) (site : Site) :
    Remarks (classify decoder site : SessionM σ Verdict) := by
  refine (noteAll fun notice member => ?_).bind fun _ => .pure _
  simp only [Site.notices, Attempt.notices, List.mem_flatMap, List.mem_append, List.mem_map,
    List.mem_singleton] at member
  rcases member with ⟨attempt, -, ⟨address, -, rfl⟩ | rfl⟩
  · rfl
  · exact isRemark_attempt _ _

end Remarks

end SessionM

namespace Flow

/-! What the log of a graph gains. -/

namespace Graph

variable {graph grown : Graph} {gained : List LogEntry} {change : Change}

/-- The log has gained entries, none of which tells of a claim that was turned down. -/
def Gains (graph grown : Graph) (gained : List LogEntry) : Prop :=
  grown.log = graph.log ++ gained ∧ ∀ entry ∈ gained, entry.change.isSkip = false

/-- A change that leaves the log as it is gains nothing. -/
theorem gains_of_sameLog (same : grown.log = graph.log) : graph.Gains grown [] :=
  ⟨by rw [same, List.append_nil], by simp⟩

/-- A logged change is gained, unless it tells of a claim that was turned down. -/
theorem Logs.gains (logs : graph.Logs grown change) (noSkip : change.isSkip = false) :
    ∃ gained, graph.Gains grown gained :=
  ⟨_, logs, by simpa using noSkip⟩

/-- Linking two nodes gains at most the entry of the new edge. -/
theorem gains_link (graph : Graph) (edge : Edge) :
    ∃ gained, graph.Gains (graph.link edge).2 gained := by
  rcases graph.logs_link edge with same | logs
  · exact ⟨[], gains_of_sameLog (congrArg log same)⟩
  · exact logs.gains rfl

/-- Opening a block gains the entry that tells of it. -/
theorem gains_createBlock {start : Position} (creates : graph.createBlock start = .ok grown) :
    ∃ gained, graph.Gains grown gained :=
  (logs_of_createBlock creates).gains rfl

/-- An instruction is appended without an entry in the log. -/
theorem gains_appendInstruction {block : Position} {instruction : Instruction}
    (grows : graph.appendInstruction block instruction = .ok grown) :
    ∃ gained, graph.Gains grown gained := by
  obtain ⟨owner, -, rfl⟩ := appendInstruction_eq_ok grows
  exact ⟨[], gains_of_sameLog rfl⟩

end Graph

/-- The ways in which a job changes a recovery, with what it reports. -/
inductive Act (state : Recovery σ) : Recovery σ → Prop where
  /-- A collaborator was called, or something is said that is recorded nowhere. -/
  | remarks {session : Session σ} {reported : List Notice}
      (remarks : ∀ notice ∈ reported, notice.isRemark = true)
      (reports : state.session.Reports session reported) :
      Act state { state with session }
  /-- What the job goes by is set. -/
  | adjusts (grouping : Grouping) (selection : Selection) (saveArea : UInt64) :
      Act state { state with grouping, selection, saveArea }
  | learns (range : HandlerRange) (pattern : Pattern) :
      Act state { state with cache := state.cache.insert range pattern }
  | misses : Act state { state with cache := { state.cache with misses := state.cache.misses + 1 } }
  /-- A pattern is found in the cache, to be taken or not. -/
  | reuses {session : Session σ} {notice : Notice} (reuse : notice.isReuse = true)
      (reports : state.session.Reports session [notice]) :
      Act state
        { state with session, cache := { state.cache with hits := state.cache.hits + 1 } }
  | countsUnknown {session : Session σ} (position : Position) (steps : Nat)
      (reports : state.session.Reports session [.unknownHandler position steps]) :
      Act state
        { state with
          session
          report := { state.report with unknownHandlers := state.report.unknownHandlers + 1 } }
  | grows {session : Session σ} {graph : Graph} {gained : List LogEntry}
      (gains : state.graph.Gains graph gained)
      (reports : state.session.Reports session
        (gained.map fun entry => .changed entry.change)) :
      Act state { state with session, graph }
  /-- A claim is turned down. -/
  | revisits {session : Session σ} {graph : Graph} {position : Position}
      (logs : state.graph.Logs graph (.visitSkipped position))
      (reports : state.session.Reports session
        [.changed (.visitSkipped position), .alreadyVisited position]) :
      Act state { state with session, graph }
  | queues {session : Session σ} {notice : Notice} {job : Job} (announces : notice.Announces job)
      (reports : state.session.Reports session [notice]) :
      Act state { state with session, queue := state.queue ++ [job] }

/-- A sequence of acts. -/
def Acts : Recovery σ → Recovery σ → Prop :=
  Relation.ReflTransGen Act

namespace RecoveryM

/-- An action consists of acts, however it ends. -/
abbrev Behaves (action : RecoveryM σ α) : Prop :=
  Relates Acts action

namespace Behaves

variable {walk : Walk} {state : Recovery σ}

/-- Two actions that consist of acts consist of acts when one runs behind the other. -/
theorem bind {action : RecoveryM σ α} {next : α → RecoveryM σ β} (first : Behaves action)
    (second : ∀ answer, Behaves (next answer)) : Behaves (action >>= next) :=
  Relates.bind id Relation.ReflTransGen.trans first second

theorem pure (answer : α) : Behaves (Pure.pure answer : RecoveryM σ α) :=
  fun _ => .refl

theorem throw (fault : Fault) : Behaves (MonadExcept.throw fault : RecoveryM σ α) :=
  fun _ => .refl

/-- What stands behind a fault is not done. -/
theorem throw_bind (fault : Fault) (next : α → RecoveryM σ β) :
    Behaves (MonadExcept.throw fault >>= next) :=
  fun _ => .refl

theorem get : Behaves (MonadState.get : RecoveryM σ (Recovery σ)) :=
  fun _ => .refl

/-- A change that is an act on every recovery consists of acts. -/
theorem change {change : Recovery σ → Recovery σ} (act : ∀ state, Act state (change state)) :
    Behaves (modify change : RecoveryM σ Unit) :=
  fun state => .single (act state)

/-- A collaborator that makes remarks only is called by an act. -/
theorem inSession {action : SessionM σ α} (remarks : SessionM.Remarks action) :
    Behaves (inSession action) := by
  intro state
  rw [ends_inSession]
  refine (remarks state.session).imp ?_ ?_
  · rintro _ session ⟨reported, remarks, reports⟩
    exact .single (.remarks remarks reports)
  · rintro _ session ⟨reported, remarks, reports⟩
    exact .single (.remarks remarks reports)

/-- Making a remark is an act. -/
theorem note {notice : Notice} (remark : notice.isRemark = true) :
    Behaves (note notice : RecoveryM σ Unit) :=
  inSession (.note remark)

/-- Setting the selection adjusts what the job goes by. -/
theorem setSelection (selection : Selection) :
    Behaves (setSelection selection : RecoveryM σ Unit) :=
  change fun state => .adjusts state.grouping selection state.saveArea

/-- A job is announced right before it is queued. -/
theorem announce {notice : Notice} {job : Job} (announces : notice.Announces job) :
    Behaves (do RecoveryM.note notice; enqueue job : RecoveryM σ Unit) := by
  intro state
  simp only [RecoveryM.note, enqueue, SessionM.note, SessionM.noteAll, ends_bind, ends_inSession,
    ends_modify]
  exact .single (.queues announces (.note state.session notice))

/-! The graph. -/

/-- What the log of a graph gains is reported when the graph takes the place of the old one. -/
theorem ends_setGraph_gains {graph : Graph} {gained : List LogEntry}
    {done : Unit → Recovery σ → Prop} {failed : Fault → Recovery σ → Prop}
    (log : graph.log = state.graph.log ++ gained) :
    Ends (setGraph graph) state done failed ↔
      done ()
        { state with
          graph
          session := { state.session with
            notices := state.session.notices ++
              gained.map fun entry => Notice.changed entry.change } } := by
  simp only [setGraph, SessionM.noteAll, ends_bind, ends_get, ends_modify, ends_inSession, log,
    List.drop_left]

/-- Putting a graph in the place of the old one is an act, if the log has only gained by it. -/
theorem setGraph_acts {graph : Graph} (gains : ∃ gained, state.graph.Gains graph gained) :
    Ends (setGraph graph) state (fun _ => Acts state) fun _ => Acts state := by
  obtain ⟨gained, gains⟩ := gains
  rw [ends_setGraph_gains gains.1]
  exact .single (.grows gains (.noteAll state.session _))

/-- A change of the graph that always succeeds consists of acts, if the log only gains by it. -/
theorem changeGraph {change : Graph → α × Graph}
    (gains : ∀ graph : Graph, ∃ gained, graph.Gains (change graph).2 gained) :
    Behaves (changeGraph change : RecoveryM σ α) := by
  intro state
  rw [RecoveryM.changeGraph, ends_bind, ends_get, ends_bind]
  exact setGraph_acts (gains state.graph)

/-- A change of the graph that may fail consists of acts, if the log only gains where it succeeds.
-/
theorem tryGraph {change : Graph → Except Fault Graph}
    (gains : ∀ graph grown : Graph, change graph = .ok grown →
      ∃ gained, graph.Gains grown gained) :
    Behaves (tryGraph change : RecoveryM σ Unit) := by
  intro state
  rw [RecoveryM.tryGraph, ends_bind, ends_get]
  split
  · exact setGraph_acts (gains state.graph _ ‹_›)
  · exact .refl

/-- A claim that is turned down is reported twice: as a change of the graph, and as what it means
for the job. -/
theorem claim (position : Position) :
    Behaves (do
      if ← RecoveryM.changeGraph fun graph => graph.claim position then
        RecoveryM.tryGraph fun graph => graph.createBlock position
        return some position
      else
        RecoveryM.note (.alreadyVisited position)
        return none : RecoveryM σ (Option Position)) := by
  intro state
  rw [ends_bind, RecoveryM.changeGraph, ends_bind, ends_get]
  rcases claimed : state.graph.claim position with ⟨isFree, graph⟩
  dsimp only
  cases isFree with
  | true =>
      have gains : state.graph.Gains graph [] := by
        obtain ⟨-, rfl⟩ := Graph.claim_eq_true claimed
        exact Graph.gains_of_sameLog rfl
      have opens : Behaves (do
          RecoveryM.tryGraph (σ := σ) fun graph => graph.createBlock position
          return some position) :=
        (tryGraph fun _ _ => Graph.gains_createBlock).bind fun _ => .pure _
      rw [ends_bind, ends_setGraph_gains gains.1, ends_pure, if_pos rfl]
      refine (opens _).imp ?_ ?_
      · exact fun _ _ => (Relation.ReflTransGen.single (.grows gains (.noteAll _ _))).trans
      · exact fun _ _ => (Relation.ReflTransGen.single (.grows gains (.noteAll _ _))).trans
  | false =>
      have logs := Graph.logs_of_taken claimed
      rw [ends_bind, ends_setGraph_gains logs, ends_pure, if_neg Bool.false_ne_true]
      simp only [RecoveryM.note, SessionM.note, SessionM.noteAll, ends_bind, ends_inSession,
        ends_modify, ends_pure]
      exact .single (.revisits logs ((Session.Reports.noteAll _ _).trans (.noteAll _ _)))

/-- Opening a block or turning the claim down consists of acts, with the edge from the source of the
walk. -/
theorem openBlock (walk : Walk) (position : Position) :
    Behaves (openBlock walk position : RecoveryM σ (Option Position)) := by
  unfold RecoveryM.openBlock
  split
  · exact .pure _
  · split
    · exact (changeGraph fun graph => graph.gains_link _).bind fun _ => claim position
    · exact claim position

/-- An instruction is recorded by acts, in the block that is open or in one that is opened for it.
-/
theorem record (walk : Walk) (instruction : Instruction) :
    Behaves (record walk instruction : RecoveryM σ (Option Position)) := by
  refine (openBlock walk _).bind fun block? => ?_
  split
  · exact .pure _
  · exact (note rfl).bind fun _ =>
      (tryGraph fun _ _ => Graph.gains_appendInstruction).bind fun _ => .pure _

/-! The effects of an instruction. -/

/-- Running the engine again is reported by remarks. -/
theorem replay (snapshot : Snapshot) (steps : Nat) : Behaves (replay backend snapshot steps) :=
  (inSession (.execute _ _)).bind fun _ => .pure _

/-- A block of the graph is lifted by remarks, and a block that does not exist is a fault. -/
theorem liftBlockAt (start : Position) : Behaves (liftBlockAt backend start) := by
  refine get.bind fun state => ?_
  split
  · exact .throw _
  · exact inSession (.liftBlock _)

/-- A job that resumes behind a block is announced and queued. -/
theorem resume (snapshot : Snapshot) (source : Position) :
    Behaves (resume snapshot source : RecoveryM σ Unit) :=
  announce (.resuming snapshot source)

/-- The walk up to its place is run again, and the job that resumes from there is announced and
queued. -/
theorem continueBehind (walk : Walk) (block : Position) :
    Behaves (continueBehind backend walk block) :=
  (replay _ _).bind fun _ => resume _ _

/-- A pair is revealed by setting the selection, or a remark tells that another one is in force. -/
theorem reveal (pair : RegisterPair) : Behaves (reveal pair : RecoveryM σ Unit) := by
  refine get.bind fun state => ?_
  split
  · exact setSelection _
  · exact note rfl

/-- A target is taken by announcing the job that resumes with it forced, or a remark tells why it
cannot be. -/
theorem fork (snapshot : Snapshot) (length : Nat) (stack : String) (block : Position)
    (target : UInt64) : Behaves (fork backend snapshot length stack block target) := by
  unfold RecoveryM.fork
  split
  · exact note rfl
  · exact (note rfl).bind fun _ => (replay _ _).bind fun _ => resume _ _

/-- A jump is executed by remarks, the announcement of a job for each target, and by clearing the
selection. -/
theorem executeJmp (walk : Walk) (occurrence : Occurrence) (block : Position) :
    Behaves (executeJmp backend walk occurrence block) := by
  refine (liftBlockAt block).bind fun fragment => ?_
  dsimp only
  split
  · exact (continueBehind _ _).bind fun _ => setSelection _
  · refine get.bind fun state => ?_
    split
    · exact (note rfl).bind fun _ => setSelection _
    · exact (replay _ _).bind fun _ => (fork _ _ _ _ _).bind fun _ =>
        (fork _ _ _ _ _).bind fun _ => setSelection _
  · exact (note rfl).bind fun _ => setSelection _

/-- Whether the code behind an exit enters the machine again is found out by remarks. -/
theorem reentering (settings : Settings) (fragment : Ir.Fragment) :
    Behaves (reentryPoint? backend settings fragment) := by
  unfold RecoveryM.reentryPoint?
  split
  · exact .pure _
  · exact (inSession (.probeEntry _ _)).bind fun _ => .pure _

/-- A block is left for a target by the last call and the announcement of the re-entry, by an edge
to native code, or by nothing. -/
theorem leaveFor (settings : Settings) (fragment : Ir.Fragment) (block exit : Position)
    (target : UInt64) : Behaves (leaveFor backend settings fragment block exit target) := by
  refine (reentering settings fragment).bind fun reentry => ?_
  split
  · rename_i address
    exact (tryGraph fun _ _ => Graph.gains_appendInstruction).bind fun _ =>
      announce (.reentering target address block)
  · split
    · exact (changeGraph fun graph => graph.gains_link _).bind fun _ => .pure _
    · exact .pure _

/-- An exit is executed by remarks and by leaving the block for its target, where the target is
known. -/
theorem executeExit (settings : Settings) (block exit : Position) :
    Behaves (executeExit backend settings block exit) := by
  refine (liftBlockAt block).bind fun fragment => ?_
  split
  · split
    · exact leaveFor settings _ _ _ _
    · exact .pure _
  · exact note rfl

/-- Whatever an instruction does to its walk, the recovery is changed by acts only. -/
theorem applyEffect (settings : Settings) (walk : Walk) (occurrence : Occurrence)
    (block : Position) (instruction : Instruction) :
    Behaves (applyEffect backend settings walk occurrence block instruction) := by
  unfold RecoveryM.applyEffect
  split
  · exact continueBehind _ _
  · exact reveal _
  · exact executeJmp _ _ _
  · exact continueBehind _ _
  · exact executeExit _ _ _
  · exact .pure _

/-! Finding out what an occurrence does. -/

/-- The walk takes its next occurrence without a change to the recovery. -/
theorem nextOccurrence (walk : Walk) :
    Behaves (nextOccurrence walk : RecoveryM σ (Occurrence × Walk)) := by
  unfold RecoveryM.nextOccurrence
  split
  · exact throw_bind _ _
  · refine get.bind fun state => ?_
    dsimp only
    split
    · exact throw_bind _ _
    · exact .pure _

/-- A key push is joined with the occurrence behind it by remarks. -/
theorem joinKeyPush (occurrence : Occurrence) (walk : Walk) :
    Behaves (joinKeyPush backend occurrence walk) := by
  refine (inSession (.noteLookups _ _)).bind fun _ => ?_
  split
  · exact get.bind fun _ => .pure _
  · exact .pure _

/-- The occurrence of an entry is read by remarks, and by adjusting the save area to what the entry
says. -/
theorem inspectEntry (walk : Walk) : Behaves (inspectEntry backend walk) := by
  refine (nextOccurrence walk).bind fun (occurrence, looked) => ?_
  refine (joinKeyPush occurrence looked).bind fun (joined, walk') => ?_
  dsimp only
  split
  · exact .throw _
  · refine (inSession (.lift _ _)).bind fun fragment => ?_
    split
    · exact (note rfl).bind fun _ => .pure _
    · rename_i entry _
      refine (change fun state => ?_).bind fun _ => (note rfl).bind fun _ => .pure _
      exact .adjusts state.grouping state.selection entry.saveArea

/-- A handler is recognised by remarks, and by learning its pattern where the cache has none for the
range. -/
theorem recognise (occurrence : Occurrence) (range : HandlerRange) (isCached : Bool) :
    Behaves (recognise backend occurrence range isCached) := by
  refine (inSession (.lift _ _)).bind fun fragment => get.bind fun state => ?_
  refine (inSession (.classify _ _)).bind fun verdict => ?_
  dsimp only
  split
  · rename_i pattern
    split
    · exact (change fun state => .learns range pattern).bind fun _ => .pure _
    · exact .pure _
  · exact .pure _

/-- A pattern that the cache holds counts as found and is reported as taken or as in conflict. -/
theorem verdictOf (occurrence : Occurrence) (range : HandlerRange) :
    Behaves (verdictOf backend occurrence range) := by
  intro state
  rw [RecoveryM.verdictOf, ends_bind, cached?, ends_modifyGet, Cache.lookup]
  cases known : state.cache.patterns[range]? with
  | none =>
      dsimp only
      have missed : Acts state _ := Relation.ReflTransGen.single .misses
      exact (recognise occurrence range false _).imp (fun _ _ => missed.trans)
        fun _ _ => missed.trans
  | some pattern =>
      dsimp only
      rw [ends_bind, ends_get]
      split
      · simp only [RecoveryM.note, SessionM.note, SessionM.noteAll, ends_bind, ends_inSession,
          ends_modify, ends_pure]
        exact .single (.reuses (by rfl) (.note _ (.cacheHit range.first pattern.name)))
      · simp only [RecoveryM.note, SessionM.note, SessionM.noteAll, ends_bind, ends_inSession,
          ends_modify]
        have reused : Acts state _ := Relation.ReflTransGen.single
          (.reuses (by rfl) (.note state.session (.cacheConflict range.first pattern.name)))
        exact (recognise occurrence range true _).imp (fun _ _ => reused.trans)
          fun _ _ => reused.trans

/-- The operation of a pattern is read at its anchor by remarks. -/
theorem readBy (walk : Walk) (occurrence : Occurrence) (start : UInt64) (pattern : Pattern) :
    Behaves (readBy backend walk occurrence start pattern) := by
  refine get.bind fun state => (inSession (.noteLookups _ _)).bind fun _ => ?_
  split
  · exact .pure _
  · exact (note rfl).bind fun _ => .pure _

/-- An unknown handler is counted and reported by one act. -/
theorem readUnknown (walk : Walk) (occurrence : Occurrence) :
    Behaves (readUnknown walk occurrence : RecoveryM σ (Walk × Option Find)) := by
  intro state
  simp only [RecoveryM.readUnknown, count, RecoveryM.note, SessionM.note, SessionM.noteAll,
    ends_bind, ends_get, ends_modify, ends_inSession, ends_pure]
  exact .single (.countsUnknown _ _ (.note _ _))

/-- The occurrence of a handler is read by acts, whatever the verdict on it is. -/
theorem inspectHandler (walk : Walk) : Behaves (inspectHandler backend walk) := by
  refine (nextOccurrence walk).bind fun (occurrence, looked) => ?_
  dsimp only
  split
  · exact .pure _
  · refine (verdictOf _ _).bind fun verdict => ?_
    split
    · exact readBy _ _ _ _
    · exact (note rfl).bind fun _ => .pure _
    · exact (note rfl).bind fun _ => .pure _
    · exact readUnknown _ _

/-- A walk is inspected by acts in each of its phases. -/
theorem inspect (walk : Walk) : Behaves (inspect backend walk) := by
  unfold RecoveryM.inspect
  split
  · exact inspectEntry walk
  · exact inspectHandler walk
  · exact .pure _
  · exact .throw _

/-- What is done about a find consists of acts. -/
theorem afterInspection (settings : Settings) (answer : Walk × Option Find) :
    Behaves (afterInspection backend settings answer) := by
  obtain ⟨walk, find?⟩ := answer
  unfold RecoveryM.afterInspection
  split
  · exact .pure _
  · refine Behaves.bind ?_ fun _ => .pure _
    refine (record _ _).bind fun block? => ?_
    split
    · exact .pure _
    · exact (applyEffect _ _ _ _ _).bind fun _ => .pure _

/-- A walk is started by remarks, and by adjusting the grouping that its trace is added to. -/
theorem startWalk (snapshot : Snapshot) (budget : Nat) :
    Behaves (startWalk backend snapshot budget) := by
  refine get.bind fun _ => (inSession (.startWalk _ _ _)).bind fun (walker, grouping) => ?_
  refine (change fun state => ?_).bind fun _ => .pure _
  exact .adjusts grouping state.selection state.saveArea

end Behaves

/-- A turn consists of acts, whether it succeeds or fails. -/
theorem turn_acts (backend : Backend σ) (settings : Settings) {walk : Walk}
    (unfinished : walk.phase ≠ .finished) : Relates Acts (turn backend settings walk) := by
  rw [turn_eq backend settings unfinished]
  exact (Behaves.inspect walk).bind fun answer => .afterInspection settings answer

/-- So does a job until it is settled. -/
theorem drive_acts (backend : Backend σ) (settings : Settings) (turns : Nat) (walk : Walk) :
    Relates Acts (drive backend settings turns walk) :=
  drive_relates (fun _ => .refl) Relation.ReflTransGen.trans
    (fun _ => turn_acts backend settings) turns walk

end RecoveryM

/-- A recovery right after it has reported that a job is started. -/
def Recovery.begun (state : Recovery σ) (job : Job) : Recovery σ :=
  { state with
    report := { state.report with tasksRun := state.report.tasksRun + 1 }
    session := { state.session with
      notices := state.session.notices ++ [Notice.jobStarted job state.queue.length] } }

/-- How a job is settled: it has finished or failed, or it takes the recovery down with it. -/
inductive Closes (state : Recovery σ) : Recovery σ → Prop where
  | finishes {session : Session σ} (reports : state.session.Reports session [.jobFinished]) :
      Closes state
        { state with
          session
          report := { state.report with tasksFinished := state.report.tasksFinished + 1 } }
  | fails {session : Session σ} {fault : Fault}
      (reports : state.session.Reports session [.jobFailed fault]) :
      Closes state
        { state with
          session
          report := { state.report with tasksFailed := state.report.tasksFailed + 1 } }
  | givesUp : Closes state state

namespace RecoveryM

/-- A job is launched by a report that it is started, and acts follow. -/
theorem launch_acts (backend : Backend σ) (settings : Settings) (job : Job) (state : Recovery σ) :
    Ends (launch backend settings job) state (fun _ => Acts (state.begun job))
      fun _ => Acts (state.begun job) := by
  have rest : Behaves (do
      setSelection .none
      let snapshot := job.snapshot.getD (backend.defaultSnapshot job.start)
      let walker ← startWalk backend snapshot (stepBudget settings job.kind)
      return ({ snapshot, source := job.source, walker, phase := job.kind.initialPhase } : Walk)) :=
    (Behaves.setSelection _).bind fun _ => (Behaves.startWalk _ _).bind fun _ => .pure _
  rw [launch, ends_bind, count, ends_modify, ends_bind, ends_get, ends_bind, note, ends_inSession,
    SessionM.note, SessionM.noteAll, ends_modify]
  exact rest (state.begun job)

/-- Settling a job closes it, with the notice and the count that belong to its outcome. -/
theorem settle_closes (outcome : Except Fault Unit) :
    Relates Closes (settle outcome : RecoveryM σ Unit) := by
  intro state
  cases outcome with
  | ok answer =>
      simp only [settle, count, note, SessionM.note, SessionM.noteAll, ends_bind, ends_modify,
        ends_inSession]
      exact .finishes (.note _ _)
  | error fault =>
      simp only [settle]
      split
      · exact .givesUp
      · simp only [count, note, SessionM.note, SessionM.noteAll, ends_bind, ends_modify,
          ends_inSession]
        exact .fails (.note _ _)

/-- What holds once a job has begun, and is kept by acts and by settling the job, holds after the
job. -/
theorem runCounted_keeps {holds : Recovery σ → Prop} (backend : Backend σ) (settings : Settings)
    (job : Job) {state : Recovery σ} (begins : holds (state.begun job))
    (acts : ∀ {middle after}, holds middle → Acts middle after → holds after)
    (closes : ∀ {middle after}, holds middle → Closes middle after → holds after) :
    Ends (runCounted backend settings job) state (fun _ => holds) fun _ => holds := by
  have settled : ∀ outcome middle, holds middle →
      Ends (settle outcome) middle (fun _ => holds) fun _ => holds :=
    fun outcome middle held => (settle_closes outcome middle).imp
      (fun _ _ => closes held) fun _ _ => closes held
  rw [ends_runCounted]
  refine (launch_acts backend settings job state).imp ?_ ?_
  · intro walk launched launching
    have held := acts begins launching
    refine (drive_acts backend settings _ walk launched).imp ?_ ?_
    · exact fun _ middle acting => settled _ middle (acts held acting)
    · exact fun _ middle acting => settled _ middle (acts held acting)
  · exact fun fault middle launching => settled _ middle (acts begins launching)

end RecoveryM

end Flow

end VmRecovery

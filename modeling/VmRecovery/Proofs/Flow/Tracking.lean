import VmRecovery.Proofs.Flow.Stage
import VmRecovery.Proofs.Trace.Range

/-!
# Jobs stay on track

The grouping of a recovery is at every moment that of the traces observed so far, and the trace
of a running job is one of them. A running job is therefore on track in its trace, also after an
entry that was joined with the occurrence behind it, so it never comes to a place where no group
starts. Two occurrences of one range that jobs come to in one run are of the same addresses.
-/

namespace VmRecovery.Flow

open Machine RecoveryM Trace

variable {σ : Type} {backend : Backend σ} {settings : Settings} {stage stage' : Stage σ}

/-- A stage is on track: its groups are those of the traces observed so far, and the job that is
running goes by them. -/
structure Stage.OnTrack (backend : Backend σ) (paths : List (List UInt64)) (stage : Stage σ) :
    Prop where
  grouped : stage.state.grouping = .ofRounds backend.decoder paths
  running : ∀ job walk, stage.activity = .running job walk →
    walk.walker.OnTrack stage.state.grouping

/-- A turn leaves a job on track. -/
theorem RecoveryM.Continued.onTrack {walk walk' : Walk} {grouping : Grouping}
    (continued : Continued walk walk' grouping) (onTrack : walk.walker.OnTrack grouping) :
    walk'.walker.OnTrack grouping := by
  rcases continued.moved with moved | moved
  · exact moved ▸ onTrack.past
  · exact moved ▸ onTrack.past.past

/-- A stage stays on track while no trace is observed. -/
theorem Stage.OnTrack.of_same {paths : List (List UInt64)} (onTrack : stage.OnTrack backend paths)
    (same : stage'.state.grouping = stage.state.grouping)
    (running : ∀ job walk, stage'.activity = .running job walk →
      walk.walker.OnTrack stage.state.grouping) :
    ∃ further, stage'.OnTrack backend (paths ++ further) := by
  refine ⟨[], ?_⟩
  rw [List.append_nil]
  exact ⟨same.trans onTrack.grouped, same ▸ running⟩

theorem Stage.OnTrack.transition {paths : List (List UInt64)}
    (onTrack : stage.OnTrack backend paths) (transition : Transition backend stage stage') :
    ∃ further, stage'.OnTrack backend (paths ++ further) := by
  have settled : ∀ outcome job walk, Activity.settled outcome = .running job walk →
      walk.walker.OnTrack stage.state.grouping :=
    fun outcome job walk running => absurd running (Activity.settled_ne_running outcome job walk)
  cases transition with
  | requests => exact onTrack.of_same rfl (by simp)
  | @launches entries state job queue snapshot steps session report queued =>
      have grouped : state.grouping.observe backend.decoder (steps.map Step.address) =
          .ofRounds backend.decoder (paths ++ [steps.map Step.address]) := by
        rw [Grouping.ofRounds_append_singleton, ← onTrack.grouped]
      refine ⟨[steps.map Step.address], grouped, ?_⟩
      rintro _ _ ⟨⟩
      rw [grouped]
      exact Walker.onTrack_ofSteps backend.decoder (by simp)
  | stumbles queued => exact onTrack.of_same rfl (settled _)
  | @turns entries state after job walk walk' unfinished edits continued =>
      refine onTrack.of_same edits.grouping_eq ?_
      rintro _ _ ⟨⟩
      exact continued.onTrack (onTrack.running job walk rfl)
  | fails unfinished edits accounted =>
      obtain ⟨session, report, rfl⟩ := accounted
      exact onTrack.of_same edits.grouping_eq (settled _)
  | completes accounted =>
      obtain ⟨session, report, rfl⟩ := accounted
      exact onTrack.of_same rfl (settled _)
  | concludes accounted =>
      obtain ⟨session, report, rfl⟩ := accounted
      exact onTrack.of_same rfl (by simp)

/-- Along a run further traces are observed, and the running job stays on track. -/
theorem Stage.OnTrack.runs {paths : List (List UInt64)} (onTrack : stage.OnTrack backend paths)
    (runs : Runs backend settings stage stage') :
    ∃ further, stage'.OnTrack backend (paths ++ further) := by
  induction runs with
  | refl => exact ⟨[], (List.append_nil paths).symm ▸ onTrack⟩
  | tail _ advance inductionHypothesis =>
      obtain ⟨further, reached⟩ := inductionHypothesis
      obtain ⟨more, next⟩ := reached.transition advance.transition
      exact ⟨further ++ more, List.append_assoc paths further more ▸ next⟩

/-- A fresh recovery has observed nothing. -/
theorem Stage.onTrack_initial (backend : Backend σ) (host : σ) (cache : Cache)
    (entries : List UInt64) :
    Stage.OnTrack backend [] ⟨.waiting, entries, .initial host cache⟩ :=
  ⟨rfl, by simp⟩

/-- Executing ends as the engine answers. -/
theorem execute_ends (backend : Backend σ) (snapshot : Snapshot) (steps : Nat)
    (session : Session σ) :
    Ends (SessionM.execute backend snapshot steps) session
      (fun run after => backend.run snapshot steps session.host = (.ok run, after.host))
      fun fault _ => (backend.run snapshot steps session.host).1 = .error fault := by
  simp only [SessionM.execute, SessionM.call, ends_bind, ends_modifyGet]
  cases answer : (backend.run snapshot steps session.host).1 with
  | ok run => exact Prod.ext answer rfl
  | error fault => exact rfl

/-- An engine run that succeeds starts a walk, whose grouping counts the trace. -/
theorem startWalk_ends (backend : Backend σ) (grouping : Grouping) (snapshot : Snapshot)
    (budget : Nat) (session : Session σ) :
    Ends (SessionM.startWalk backend grouping snapshot budget) session
      (fun answer _ => ∃ run, (backend.run snapshot budget session.host).1 = .ok run ∧
        answer = (.ofSteps run.steps,
          grouping.observe backend.decoder (run.steps.map Step.address)))
      fun fault _ => (backend.run snapshot budget session.host).1 = .error fault := by
  rw [SessionM.startWalk, ends_bind]
  refine (execute_ends backend snapshot budget session).imp ?_ fun _ _ fails => fails
  intro run after answers
  exact ⟨run, congrArg Prod.fst answers, rfl⟩

/-- A walk divides its trace into the groups of all traces observed up to its own, whatever was
observed before. A running job never comes to a place where no group starts, at any moment of
any sequence of recoveries. -/
theorem walks_cover_traces (backend : Backend σ) (settings : Settings) :
    (∀ (earlier : List (List UInt64)) (snapshot : Snapshot) (budget : Nat) (session : Session σ),
      Ends
        (SessionM.startWalk backend (.ofRounds backend.decoder earlier) snapshot budget) session
        (fun (walker, grouping) _ => ∃ run,
          (backend.run snapshot budget session.host).1 = .ok run ∧
          Divides grouping run.steps (walker.occurrences grouping).1 ∧
          (walker.occurrences grouping).2.atEnd = true)
        fun fault _ => (backend.run snapshot budget session.host).1 = .error fault) ∧
    ∀ (host : σ) (cache : Cache) (entries : List UInt64) (stage : Stage σ) (job : Job)
      (walk : Walk),
      Runs backend settings ⟨.waiting, entries, .initial host cache⟩ stage →
      stage.activity = .running job walk →
      Ends (nextOccurrence walk) stage.state (fun answer _ => answer.1.steps ≠ [])
        fun fault _ => walk.walker.atEnd = true ∧ fault = .traceExhausted walk.walker.length := by
  constructor
  · intro earlier snapshot budget session
    refine (startWalk_ends backend _ snapshot budget session).imp ?_ fun _ _ failed => failed
    rintro _ after ⟨run, ran, rfl⟩
    rw [← Grouping.ofRounds_append_singleton]
    exact ⟨run, ran, (Walker.onTrack_ofSteps backend.decoder (by simp)).occurrences⟩
  · intro host cache entries stage job walk runs running
    obtain ⟨paths, onTrack⟩ := (Stage.onTrack_initial backend host cache entries).runs runs
    have tracked := onTrack.running job walk running
    rw [ends_nextOccurrence]
    split
    · rename_i exhausted
      exact ⟨exhausted, rfl⟩
    · rename_i unfinished
      have handedOut := tracked.current_ne_nil (by simpa using unfinished)
      have nonempty : ¬ (walk.walker.current stage.state.grouping).isEmpty = true :=
        fun empty => handedOut (List.isEmpty_iff.mp empty)
      rw [if_neg nonempty]
      exact handedOut

/-- Collaborators whose engine records the same run whatever it starts from. They lift and decode
nothing. -/
def recordedBackend (run : Run) : Backend Unit where
  defaultSnapshot := fun _ => {}
  defaultStackPointer := 0
  run := fun _ _ host => (.ok run, host)
  liftOccurrence := fun _ host => (none, host)
  liftBlock := fun _ host => (none, host)
  decoder := { decode := fun _ => none }
  branchTargets := fun _ => []
  exitCall? := fun _ => none
  isKnownEntry := fun _ => false

/-- A trace through a loop, of which the job that is started on it comes to the part before the
loop first. -/
theorem walk_covers_recorded_loop :
    let backend := recordedBackend { steps := [1, 2, 3, 2, 3, 4].map (⟨·, {}⟩), final := {} }
    ∃ (stage : Stage Unit) (job : Job) (walk : Walk),
      Runs backend {} ⟨.waiting, [1], .initial () {}⟩ stage ∧
      stage.activity = .running job walk ∧
      (walk.walker.current stage.state.grouping).addresses = [1] ∧
      Ends (nextOccurrence walk) stage.state (fun answer _ => answer.1.steps ≠ [])
        fun fault _ => walk.walker.atEnd = true ∧ fault = .traceExhausted walk.walker.length := by
  intro backend
  obtain ⟨stage, job, walk, runs, running, first⟩ : ∃ (stage : Stage Unit) (job : Job)
      (walk : Walk), Runs backend {} ⟨.waiting, [1], .initial () {}⟩ stage ∧
        stage.activity = .running job walk ∧
        (walk.walker.current stage.state.grouping).addresses = [1] :=
    ⟨_, _, _, .head .requests (.single (.launches rfl (by decide) rfl)), rfl, by decide +kernel⟩
  exact ⟨stage, job, walk, runs, running, first,
    (walks_cover_traces backend {}).2 () {} [1] stage job walk runs running⟩

theorem nextOccurrence_ends (walk : Walk) (state : Recovery σ) :
    Ends (nextOccurrence walk) state
      (fun answer _ => answer.1 = walk.walker.current state.grouping) fun _ _ => True :=
  (nextOccurrence_current walk state).imp (fun _ _ handedOut => handedOut.1) fun _ _ _ => trivial

/-- The range of an occurrence tells its addresses: whatever walkers hand out at any two moments
while traces are observed, and whatever jobs come to at any two moments of a sequence of
recoveries, is of the same addresses if it is of the same range. -/
theorem ranges_identify_addresses (backend : Backend σ) (settings : Settings) :
    (∀ (paths : List (List UInt64)) (moment moment' : Nat) (walker walker' : Walker),
      (walker.current (.ofRounds backend.decoder (paths.take moment))).range? =
        (walker'.current (.ofRounds backend.decoder (paths.take moment'))).range? →
      (walker.current (.ofRounds backend.decoder (paths.take moment))).addresses =
        (walker'.current (.ofRounds backend.decoder (paths.take moment'))).addresses) ∧
    ∀ (host : σ) (cache : Cache) (entries : List UInt64) (stage stage' : Stage σ)
      (walk walk' : Walk),
      Runs backend settings ⟨.waiting, entries, .initial host cache⟩ stage →
      Runs backend settings stage stage' →
      Ends (nextOccurrence walk) stage.state
        (fun answer _ => Ends (nextOccurrence walk') stage'.state
          (fun answer' _ => answer.1.range? = answer'.1.range? →
            answer.1.addresses = answer'.1.addresses)
          fun _ _ => True)
        fun _ _ => True := by
  constructor
  · intro paths moment moment' walker walker' same
    rcases Nat.le_total moment moment' with before | before
    · obtain ⟨further, split⟩ : paths.take moment <+: paths.take moment' :=
        List.take_prefix_take_left before
      rw [← split] at same ⊢
      exact addresses_eq_of_range?_eq same
    · obtain ⟨further, split⟩ : paths.take moment' <+: paths.take moment :=
        List.take_prefix_take_left before
      rw [← split] at same ⊢
      exact (addresses_eq_of_range?_eq same.symm).symm
  · intro host cache entries stage stage' walk walk' runs later
    obtain ⟨paths, onTrack⟩ := (Stage.onTrack_initial backend host cache entries).runs runs
    obtain ⟨further, onTrack'⟩ := onTrack.runs later
    refine (nextOccurrence_ends walk stage.state).imp ?_ fun _ _ _ => trivial
    rintro ⟨occurrence, _⟩ _ rfl
    refine (nextOccurrence_ends walk' stage'.state).imp ?_ fun _ _ _ => trivial
    rintro ⟨occurrence', _⟩ _ rfl
    rw [onTrack.grouped, onTrack'.grouped]
    exact addresses_eq_of_range?_eq

/-- A group that grows between two moments is handed out with the same addresses where a trace
ends within it. -/
theorem range_identifies_cut_group :
    let moment := fun count => Grouping.ofRounds { decode := fun _ => none }
      ([[1, 2], [1, 2, 3]].take count)
    let walker := Walker.ofSteps ([1, 2].map (⟨·, {}⟩))
    (moment 1).groupAt? 1 = some [1, 2] ∧ (moment 2).groupAt? 1 = some [1, 2, 3] ∧
      (walker.current (moment 1)).range? = (walker.current (moment 2)).range? ∧
      (walker.current (moment 1)).addresses = (walker.current (moment 2)).addresses := by
  intro moment walker
  have same : (walker.current (moment 1)).range? = (walker.current (moment 2)).range? := by
    decide +kernel
  exact ⟨by decide +kernel, by decide +kernel, same,
    (ranges_identify_addresses (recordedBackend { steps := [], final := {} }) {}).1
      [[1, 2], [1, 2, 3]] 1 2 walker walker same⟩

end VmRecovery.Flow

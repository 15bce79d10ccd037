import VmRecovery.Proofs.Flow.Turn

/-!
# The tally of jobs

While a job is under way one more job has been run than has finished or failed. A recovery that
is given up leaves that job uncounted, so the report tells how often a recovery was given up
(`recoverFrom_tallies`).
-/

namespace VmRecovery.Flow

open Machine Trace

/-- So many of the jobs that have been run are counted neither as finished nor as failed. -/
def Report.Uncounted (report : Report) (jobs : Nat) : Prop :=
  report.tasksRun = report.tasksFinished + report.tasksFailed + jobs

theorem uncounted_initial {σ : Type} (host : σ) (cache : Cache) :
    (Recovery.initial host cache).report.Uncounted 0 :=
  rfl

/-- Edits count unrecognised handlers only. -/
theorem Edits.report_eq {σ : Type} {walk : Walk} {state after : Recovery σ}
    (edits : Edits walk state after) :
    ∃ unknownHandlers, after.report = { state.report with unknownHandlers } := by
  induction edits with
  | refl => exact ⟨_, rfl⟩
  | tail _ edit inductionHypothesis =>
      obtain ⟨unknownHandlers, counted⟩ := inductionHypothesis
      cases edit with
      | countsUnknown => exact ⟨_, congrArg (fun report : Report =>
          { report with unknownHandlers := report.unknownHandlers + 1 }) counted⟩
      | _ => exact ⟨_, counted⟩

namespace RecoveryM

variable {σ : Type} {backend : Backend σ} {settings : Settings} {state : Recovery σ} {jobs : Nat}

theorem launch_tallies (job : Job) (uncounted : state.report.Uncounted jobs) :
    Ends (launch backend settings job) state
      (fun _ after => after.report.Uncounted (jobs + 1))
      fun _ after => after.report.Uncounted (jobs + 1) := by
  refine (launch_ends backend settings job state).imp ?_ ?_
  · rintro _ _ ⟨steps, session, rfl, -⟩
    exact congrArg (· + 1) uncounted
  · rintro _ _ ⟨session, rfl⟩
    exact congrArg (· + 1) uncounted

theorem drive_tallies (turns : Nat) (walk : Walk) (uncounted : state.report.Uncounted jobs) :
    Ends (drive backend settings turns walk) state
      (fun _ after => after.report.Uncounted jobs) fun _ after => after.report.Uncounted jobs := by
  have sameCounts : Relates (fun state after : Recovery σ =>
      ∃ unknownHandlers, after.report = { state.report with unknownHandlers })
      (drive backend settings turns walk) := by
    refine drive_relates (fun state => ⟨_, rfl⟩) ?_ (fun walk unfinished state => ?_) turns walk
    · rintro before middle after ⟨_, counted⟩ ⟨unknownHandlers, countedMore⟩
      exact ⟨unknownHandlers, by rw [countedMore, counted]⟩
    · exact (turn_ends backend settings state unfinished).imp
        (fun _ _ done => done.1.report_eq) fun _ _ edits => edits.report_eq
  refine (sameCounts state).imp ?_ ?_
  · rintro _ after ⟨unknownHandlers, counted⟩
    rwa [counted]
  · rintro _ after ⟨unknownHandlers, counted⟩
    rwa [counted]

/-- A job is counted when it is settled, unless its fault is passed on. -/
theorem settle_tallies (outcome : Except Fault Unit)
    (uncounted : state.report.Uncounted (jobs + 1)) :
    Ends (settle outcome) state
      (fun _ after => after.report.Uncounted jobs)
      fun _ after => after.report.Uncounted (jobs + 1) := by
  unfold Report.Uncounted at uncounted ⊢
  refine (settle_ends outcome state).imp ?_ ?_
  · rintro _ _ ⟨session, finished, failed, counted, rfl⟩
    change state.report.tasksRun = finished + failed + jobs
    omega
  · rintro _ _ rfl
    exact uncounted

theorem runCounted_tallies (job : Job) (uncounted : state.report.Uncounted jobs) :
    Ends (runCounted backend settings job) state
      (fun _ after => after.report.Uncounted jobs)
      fun _ after => after.report.Uncounted (jobs + 1) := by
  rw [ends_runCounted]
  refine (launch_tallies job uncounted).imp (fun walk after uncounted => ?_)
    fun _ _ uncounted => settle_tallies _ uncounted
  exact (drive_tallies _ walk uncounted).imp (fun _ _ uncounted => settle_tallies _ uncounted)
    fun _ _ uncounted => settle_tallies _ uncounted

theorem drain_tallies (count : Nat) (uncounted : state.report.Uncounted jobs) :
    Ends (drain backend settings count) state
      (fun _ after => after.report.Uncounted jobs)
      fun _ after => after.report.Uncounted (jobs + 1) := by
  induction count generalizing state with
  | zero =>
      simp only [drain, note, SessionM.note, SessionM.noteAll, ends_bind, ends_get]
      split
      · exact uncounted
      · exact uncounted
  | succ count inductionHypothesis =>
      rw [drain, ends_bind, ends_get]
      split
      · exact uncounted
      · rename_i job queue queued
        rw [ends_bind, ends_modify, ends_bind]
        refine (runCounted_tallies job ?_).imp (fun _ _ => inductionHypothesis) fun _ _ same => same
        exact uncounted

/-- A recovery counts all jobs that it runs if it returns its report, and all but the last one if
it is given up. -/
theorem recoverFrom_tallies (entry : UInt64) (uncounted : state.report.Uncounted jobs) :
    Ends (recoverFrom backend settings entry) state
      (fun report after => report = after.report ∧ after.report.Uncounted jobs)
      fun _ after => after.report.Uncounted (jobs + 1) := by
  rw [recoverFrom, ends_bind, enqueue, ends_modify, ends_bind, ends_get, ends_bind]
  refine (drain_tallies _ ?_).imp (fun _ after uncounted => ?_) fun _ _ same => same
  · exact uncounted
  · simp only [finish, count, note, SessionM.note, SessionM.noteAll, ends_bind, ends_get,
      ends_modify, ends_inSession, ends_pure]
    exact ⟨trivial, uncounted⟩

end RecoveryM

end VmRecovery.Flow

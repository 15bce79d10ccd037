import VmRecovery.Proofs.Flow.Announcement
import VmRecovery.Proofs.Flow.Stage
import VmRecovery.Proofs.Flow.Tally

/-!
# The ledger of jobs

Every job is queued at the end and taken from the front, once, whether a recovery is stopped by
the limit, is given up, or fails none of its jobs. Over any number of recoveries the jobs that
were started, followed by those that are left, are therefore the jobs that were queued, in order
(`jobs_accounted_for`).
-/

namespace VmRecovery.Flow

open Machine RecoveryM Trace

variable {σ : Type} {backend : Backend σ} {settings : Settings}

/-- Between two states jobs were started and queued, and the report counts those that were
started. -/
structure Ledger (started queued : List Job) (state after : Recovery σ) : Prop
    extends Deals started queued state after where
  counted : after.report.tasksRun = state.report.tasksRun + started.length

/-- No act starts a job. -/
theorem Acts.tasksRun_eq {state after : Recovery σ} (acts : Acts state after) :
    after.report.tasksRun = state.report.tasksRun := by
  induction acts with
  | refl => rfl
  | tail _ act inductionHypothesis => cases act <;> exact inductionHypothesis

/-- Beginning a job takes it from the front of the queue. -/
theorem deals_begun (job : Job) (state : Recovery σ) :
    Deals [job] [] { state with queue := job :: state.queue } (state.begun job) := by
  refine ⟨by simp [Recovery.begun], ?_, [], ?_, .nil⟩
  · simp [Recovery.started, Recovery.begun, Notice.started?]
  · simp [Recovery.announcements, Recovery.begun, Notice.isAnnouncement]

namespace RecoveryM

/-! A job. -/

/-- A job starts itself first, and all that it queues comes behind. -/
theorem runCounted_deals (backend : Backend σ) (settings : Settings) (job : Job)
    (state : Recovery σ) :
    let popped : Recovery σ := { state with queue := job :: state.queue }
    Ends (runCounted backend settings job) state
      (fun _ after => ∃ queued, Deals [job] queued popped after)
      fun _ after => ∃ queued, Deals [job] queued popped after := by
  intro popped
  have further : ∀ {middle after}, (∃ queued, Deals [job] queued popped middle) →
      Queues middle after → ∃ queued, Deals [job] queued popped after := by
    rintro middle after ⟨queued, deals⟩ ⟨more, dealsMore⟩
    exact ⟨queued ++ more, deals.trans dealsMore⟩
  exact runCounted_keeps backend settings job ⟨[], deals_begun job state⟩
    (fun deals acts => further deals acts.queues) fun deals closes => further deals closes.queues

/-- A job counts once, however it ends. -/
theorem runCounted_counts (backend : Backend σ) (settings : Settings) (job : Job)
    (state : Recovery σ) :
    Ends (runCounted backend settings job) state
      (fun _ after => after.report.tasksRun = state.report.tasksRun + 1)
      fun _ after => after.report.tasksRun = state.report.tasksRun + 1 := by
  refine runCounted_keeps backend settings job rfl ?_ ?_
  · exact fun counted acts => acts.tasksRun_eq.trans counted
  · intro middle after counted closes
    cases closes <;> exact counted

/-- A job is entered as started, with the jobs that it queues. -/
theorem runCounted_ledger (job : Job) {queue : List Job} {state : Recovery σ}
    (queued : state.queue = job :: queue) :
    Ends (runCounted backend settings job) { state with queue }
      (fun _ after => ∃ queued, Ledger [job] queued state after)
      fun _ after => ∃ queued, Ledger [job] queued state after := by
  have popped : { state with queue := job :: queue } = state := by rw [← queued]
  have deals := runCounted_deals backend settings job { state with queue }
  have counts := runCounted_counts backend settings job { state with queue }
  dsimp only at deals
  rw [popped] at deals
  refine deals.ran.imp ?_ ?_
  · rintro answer after ⟨ran, queued, deals⟩
    have counted := counts.of_ok ran
    exact ⟨queued, { deals with counted }⟩
  · rintro fault after ⟨ran, queued, deals⟩
    have counted := counts.of_error ran
    exact ⟨queued, { deals with counted }⟩

end RecoveryM

/-! A recovery. -/

namespace Ledger

variable {state middle after : Recovery σ} {started startedMore queued queuedMore : List Job}

/-- A recovery that stays as it is has an empty ledger. -/
theorem refl (state : Recovery σ) : Ledger [] [] state state :=
  { Deals.of_same rfl rfl with counted := rfl }

/-- Two ledgers in a row make one, the first one first. -/
theorem trans (first : Ledger started queued state middle)
    (second : Ledger startedMore queuedMore middle after) :
    Ledger (started ++ startedMore) (queued ++ queuedMore) state after where
  toDeals := first.toDeals.trans second.toDeals
  counted := by rw [second.counted, first.counted, List.length_append, Nat.add_assoc]

/-- A notice that is silent about the queue, and a change of other counters. -/
theorem of_note {notice : Notice} (silent : notice.IsSilent) (sameQueue : after.queue = state.queue)
    (reports : state.session.Reports after.session [notice])
    (counted : after.report.tasksRun = state.report.tasksRun) : Ledger [] [] state after where
  toDeals := .of_silent sameQueue reports (by simpa using silent)
  counted := counted

end Ledger

namespace RecoveryM

/-- Draining starts as many jobs as it may, unless the queue gets empty. -/
theorem drain_ledger (jobs : Nat) (state : Recovery σ) :
    Ends (drain backend settings jobs) state
      (fun _ after => ∃ started queued, Ledger started queued state after ∧
        started.length ≤ jobs ∧ (after.queue = [] ∨ started.length = jobs))
      fun _ after => ∃ started queued, Ledger started queued state after ∧
        started.length ≤ jobs := by
  induction jobs generalizing state with
  | zero =>
      simp only [drain, note, SessionM.note, SessionM.noteAll, ends_bind, ends_get]
      split
      · exact ⟨[], [], .of_note ⟨rfl, rfl⟩ rfl Array.toList_appendList rfl, Nat.le_refl _, .inr rfl⟩
      · exact ⟨[], [], .refl state, Nat.le_refl _, .inr rfl⟩
  | succ jobs inductionHypothesis =>
      rw [drain, ends_bind, ends_get]
      split
      · rename_i empty
        exact ⟨[], [], .refl state, Nat.zero_le _, .inl empty⟩
      · rename_i job queue waiting
        rw [ends_bind, ends_modify, ends_bind]
        refine (runCounted_ledger job waiting).imp ?_ ?_
        · rintro answer middle ⟨queued, ledger⟩
          refine (inductionHypothesis middle).imp ?_ ?_
          · rintro _ after ⟨started, more, further, few, ends⟩
            refine ⟨[job] ++ started, queued ++ more, ledger.trans further,
              Nat.succ_le_succ few, ends.imp_right fun all => congrArg (· + 1) all⟩
          · rintro _ after ⟨started, more, further, few⟩
            exact ⟨[job] ++ started, queued ++ more, ledger.trans further, Nat.succ_le_succ few⟩
        · rintro fault after ⟨queued, ledger⟩
          exact ⟨[job], queued, ledger, Nat.succ_le_succ (Nat.zero_le _)⟩

/-- At its end a recovery counts what is left and what was revisited, and answers with the report.
-/
theorem finish_ends (state : Recovery σ) :
    Ends finish state
      (fun report after => Ledger [] [] state after ∧ after.queue = state.queue ∧
        report = after.report ∧ report.tasksPending = after.queue.length ∧
        report.revisitedBlocks = after.graph.log.countP fun entry => entry.change.isSkip)
      fun _ _ => False := by
  simp only [finish, count, note, SessionM.note, SessionM.noteAll, ends_bind, ends_get,
    ends_modify, ends_inSession, ends_pure]
  exact ⟨.of_note ⟨rfl, rfl⟩ rfl Array.toList_appendList rfl, trivial, trivial, trivial, rfl⟩

end RecoveryM

/-- A recovery starts as many jobs as it may, unless the queue gets empty, and its report tells
what is left. -/
theorem RecoveryM.recoverFrom_ledger (backend : Backend σ) (settings : Settings) (entry : UInt64)
    (state : Recovery σ) :
    let requested : Recovery σ := { state with queue := state.queue ++ [.entering entry none] }
    let jobs := settings.maxTasks - state.report.tasksRun
    Ends (recoverFrom backend settings entry) state
      (fun report after => ∃ started queued, Ledger started queued requested after ∧
        started.length ≤ jobs ∧ (after.queue = [] ∨ started.length = jobs) ∧
        report.tasksPending = after.queue.length ∧
        report.revisitedBlocks = after.graph.log.countP fun entry => entry.change.isSkip)
      fun _ after => ∃ started queued, Ledger started queued requested after ∧
        started.length ≤ jobs := by
  intro requested jobs
  rw [recoverFrom, ends_bind, enqueue, ends_modify, ends_bind, ends_get, ends_bind]
  refine (drain_ledger jobs requested).imp ?_ fun _ _ => id
  rintro _ drained ⟨started, queued, ledger, few, ends⟩
  refine (finish_ends drained).imp ?_ fun _ _ => False.elim
  rintro report after ⟨finished, sameQueue, -, pending, revisited⟩
  refine ⟨started ++ [], queued ++ [], ledger.trans finished, ?_⟩
  rw [List.append_nil, sameQueue]
  exact ⟨few, ends, sameQueue ▸ pending, revisited⟩

/-- What a recovery from a native address has done by its end. -/
structure Serves (settings : Settings) (entry : UInt64) (state : Recovery σ)
    (outcome : Except Fault Report) (after : Recovery σ) : Prop where
  /-- The root is queued behind all other jobs and the announced jobs behind the root, and jobs are
  started as they stand in the queue. -/
  inOrder : ∃ queued reported,
    after.started ++ after.queue =
      state.started ++ state.queue ++ .entering entry none :: queued ∧
    after.announcements = state.announcements ++ reported ∧
    List.Forall₂ Notice.Announces reported queued
  returned : ∀ report, outcome = .ok report → report = after.report
  /-- The report tells how many jobs are left. There are none unless the limit is reached. -/
  pending : ∀ report, outcome = .ok report → report.tasksPending = after.queue.length ∧
    (report.tasksPending ≠ 0 → report.tasksRun = settings.maxTasks)
  revisited : ∀ report, outcome = .ok report →
    report.revisitedBlocks = after.graph.log.countP fun entry => entry.change.isSkip

/-- What the counters of a recovery tell after so many requests of which so many were given
up. -/
structure Balanced (settings : Settings) (requests givenUp : Nat) (state : Recovery σ) : Prop where
  uncounted : state.report.Uncounted givenUp
  allowed : state.report.tasksRun ≤ settings.maxTasks
  started : state.started.length = state.report.tasksRun
  conserved : requests + state.announcements.length = state.report.tasksRun + state.queue.length

/-- At first all counters stand at zero. -/
theorem balanced_initial (settings : Settings) (host : σ) (cache : Cache) :
    Balanced settings 0 0 (Recovery.initial host cache) :=
  ⟨uncounted_initial host cache, Nat.zero_le _, rfl, rfl⟩

/-- What a recovery has done by its end with the jobs that it has started and queued. -/
theorem Ledger.inOrder {entry : UInt64} {state after : Recovery σ} {started queued : List Job}
    (ledger : Ledger started queued { state with queue := state.queue ++ [.entering entry none] }
      after) :
    ∃ reported, after.started ++ after.queue =
        state.started ++ state.queue ++ .entering entry none :: queued ∧
      after.announcements = state.announcements ++ reported ∧
      List.Forall₂ Notice.Announces reported queued := by
  obtain ⟨reported, same, announces⟩ := ledger.announced
  refine ⟨reported, ?_, same, announces⟩
  have conserved : state.queue ++ [.entering entry none] ++ queued = started ++ after.queue :=
    ledger.conserved
  have begun : after.started = state.started ++ started := ledger.started_eq
  rw [begun, List.append_assoc, ← conserved]
  simp

/-- A recovery keeps the balance, whether it returns its report or is given up. -/
theorem Ledger.balanced {entry : UInt64} {state after : Recovery σ} {started queued : List Job}
    {requests givenUp givenUpMore : Nat} (balanced : Balanced settings requests givenUp state)
    (ledger : Ledger started queued { state with queue := state.queue ++ [.entering entry none] }
      after)
    (few : started.length ≤ settings.maxTasks - state.report.tasksRun)
    (uncounted : after.report.Uncounted givenUpMore) :
    Balanced settings (requests + 1) givenUpMore after := by
  obtain ⟨reported, inOrder, announcements, announces⟩ := ledger.inOrder
  have counted : after.report.tasksRun = state.report.tasksRun + started.length := ledger.counted
  have begun : after.started.length = state.started.length + started.length := by
    rw [ledger.started_eq, List.length_append]
    rfl
  have sameLength : reported.length = queued.length := announces.length_eq
  have lengths := congrArg List.length inOrder
  simp only [List.length_append, List.length_cons] at lengths
  have allowed := balanced.allowed
  have startedBefore := balanced.started
  have conserved := balanced.conserved
  refine ⟨uncounted, by omega, by omega, ?_⟩
  rw [announcements, List.length_append]
  omega

namespace RecoveryM

/-- A recovery serves the queue in order and keeps the balance. -/
theorem recoverFrom_serves (backend : Backend σ) (settings : Settings) (entry : UInt64)
    {state : Recovery σ} {requests givenUp : Nat}
    (balanced : Balanced settings requests givenUp state) :
    Ends (recoverFrom backend settings entry) state
      (fun report after => Serves settings entry state (.ok report) after ∧
        Balanced settings (requests + 1) givenUp after)
      fun fault after => Serves settings entry state (.error fault) after ∧
        Balanced settings (requests + 1) (givenUp + 1) after := by
  have ledgers := recoverFrom_ledger backend settings entry state
  refine (recoverFrom_tallies entry balanced.uncounted).ran.imp ?_ ?_
  · rintro report after ⟨ran, returned, uncounted⟩
    obtain ⟨started, queued, ledger, few, ends, pending, revisited⟩ := ledgers.of_ok ran
    refine ⟨⟨⟨queued, ledger.inOrder⟩, ?_, ?_, ?_⟩, ledger.balanced balanced few uncounted⟩
    · rintro _ ⟨⟩
      exact returned
    · rintro _ ⟨⟩
      refine ⟨pending, fun left => ?_⟩
      have full : started.length = settings.maxTasks - state.report.tasksRun :=
        ends.resolve_left fun empty => left (by rw [pending, empty, List.length_nil])
      have counted : after.report.tasksRun = state.report.tasksRun + started.length :=
        ledger.counted
      have allowed := balanced.allowed
      rw [returned]
      omega
    · rintro _ ⟨⟩
      exact revisited
  · rintro fault after ⟨ran, uncounted⟩
    obtain ⟨started, queued, ledger, few⟩ := ledgers.of_error ran
    refine ⟨⟨⟨queued, ledger.inOrder⟩, ?_, ?_, ?_⟩, ledger.balanced balanced few uncounted⟩
    · exact fun _ impossible => by cases impossible
    · exact fun _ impossible => by cases impossible
    · exact fun _ impossible => by cases impossible

end RecoveryM

/-- The outcomes of recoveries from native addresses, one after the other. -/
def outcomes (backend : Backend σ) (settings : Settings) :
    List UInt64 → Recovery σ → List (Except Fault Report)
  | [], _ => []
  | entry :: entries, state =>
      let (outcome, after) := (recoverFrom backend settings entry).run.run state
      outcome :: outcomes backend settings entries after

/-- How many recoveries are given up. -/
def givenUp (backend : Backend σ) (settings : Settings) (entries : List UInt64)
    (state : Recovery σ) : Nat :=
  (outcomes backend settings entries state).countP fun outcome => !outcome.isOk

/-- Recoveries keep the balance. -/
theorem Balanced.afterEach {requests before : Nat} {state : Recovery σ} (backend : Backend σ)
    (balanced : Balanced settings requests before state) (entries : List UInt64) :
    Balanced settings (requests + entries.length)
      (before + givenUp backend settings entries state)
      (recoverEach backend settings entries state) := by
  induction entries generalizing requests before state with
  | nil => exact balanced
  | cons entry entries inductionHypothesis =>
      have served := recoverFrom_serves backend settings entry balanced
      rcases ran : (recoverFrom backend settings entry).run.run state with ⟨fault | report, after⟩
      · have counted : givenUp backend settings (entry :: entries) state =
            1 + givenUp backend settings entries after := by
          simp [givenUp, outcomes, ran, Except.isOk, Except.toBool, Nat.add_comm]
        have next := inductionHypothesis (served.of_error ran).2
        rw [Nat.add_assoc, Nat.add_assoc, ← counted, Nat.add_comm 1] at next
        rwa [recoverEach, List.foldl_cons, ran]
      · have counted : givenUp backend settings (entry :: entries) state =
            givenUp backend settings entries after := by
          simp [givenUp, outcomes, ran, Except.isOk, Except.toBool]
        have next := inductionHypothesis (served.of_ok ran).2
        rw [Nat.add_assoc, ← counted, Nat.add_comm 1] at next
        rwa [recoverEach, List.foldl_cons, ran]

/-- After any recoveries the report counts every job that was started as finished or failed, or as
the one in which a recovery was given up. Not more jobs were started than the limit allows, and
those that were queued, for a request or as announced, are those that were started and those that
are left. The next recovery queues and starts jobs in order, too, whether it is stopped, is given
up or leaves none. -/
theorem jobs_accounted_for (backend : Backend σ) (settings : Settings) (host : σ) (cache : Cache)
    (entries : List UInt64) :
    let state := recoverEach backend settings entries (.initial host cache)
    let failures := givenUp backend settings entries (.initial host cache)
    state.report.tasksRun =
        state.report.tasksFinished + state.report.tasksFailed + failures ∧
      state.report.tasksRun ≤ settings.maxTasks ∧
      state.started.length = state.report.tasksRun ∧
      entries.length + state.announcements.length =
        state.report.tasksRun + state.queue.length ∧
      ∀ entry, let next := (recoverFrom backend settings entry).run.run state
        Serves settings entry state next.1 next.2 := by
  intro state failures
  have balanced : Balanced settings entries.length failures state := by
    have balanced := (balanced_initial settings host cache).afterEach backend entries
    rwa [Nat.zero_add, Nat.zero_add] at balanced
  refine ⟨balanced.uncounted, balanced.allowed, balanced.started, balanced.conserved, ?_⟩
  intro entry next
  have served := recoverFrom_serves backend settings entry balanced
  rcases ran : next with ⟨fault | report, after⟩
  · exact (served.of_error ran).1
  · exact (served.of_ok ran).1

end VmRecovery.Flow

import Mathlib.Algebra.BigOperators.Group.List.Basic
import VmRecovery.Proofs.Flow.Act
import VmRecovery.Proofs.Flow.Stage

/-!
# The notices as an account of the results

A recovery keeps counters, the hits of its cache and the log of its graph, and it gives notices.
An `Account` sums up either side: what a list of notices tells (`Account.of`), and what a recovery
has recorded (`Recovery.account`). Every act, every job and every recovery adds to both sides alike
(`Accounts`), whether it succeeds or fails, so that the notices of any number of recoveries tell
how often each thing has happened and which changes the graph has seen
(`notices_account_for_results`).
-/

namespace VmRecovery

open VmRecovery.Flow

/-- What is told of the jobs, the handlers and the graph. -/
@[ext]
structure Account where
  started : Nat := 0
  finished : Nat := 0
  failed : Nat := 0
  unknown : Nat := 0
  /-- Patterns found in the cache, whether they were taken or not. -/
  reused : Nat := 0
  /-- Jobs that arrived where another job had been before. -/
  revisited : Nat := 0
  changes : List Change := []
  deriving DecidableEq, Repr

namespace Account

/-- One account after another. -/
def append (first second : Account) : Account where
  started := first.started + second.started
  finished := first.finished + second.finished
  failed := first.failed + second.failed
  unknown := first.unknown + second.unknown
  reused := first.reused + second.reused
  revisited := first.revisited + second.revisited
  changes := first.changes ++ second.changes

instance : Zero Account := ⟨{}⟩

instance : Add Account := ⟨append⟩

theorem zero_def : (0 : Account) = {} := rfl

theorem add_def (first second : Account) : first + second = first.append second := rfl

instance : AddMonoid Account where
  add_assoc first second third := by
    simp only [add_def, append, Nat.add_assoc, List.append_assoc]
  zero_add account := by
    simp [zero_def, add_def, append]
  add_zero account := by
    simp [zero_def, add_def, append]
  nsmul := nsmulRec

end Account

/-- What a notice tells of the results. -/
def Notice.account : Notice → Account
  | jobStarted _ _ => { started := 1 }
  | jobFinished => { finished := 1 }
  | jobFailed _ => { failed := 1 }
  | unknownHandler _ _ => { unknown := 1 }
  | cacheHit _ _ => { reused := 1 }
  | cacheConflict _ _ => { reused := 1 }
  | alreadyVisited _ => { revisited := 1 }
  | changed change => { changes := [change] }
  | _ => 0

/-- What a list of notices tells of the results. -/
def Account.of (notices : List Notice) : Account :=
  (notices.map Notice.account).sum

namespace Account

@[simp] theorem of_nil : of [] = 0 := rfl

/-- The first notice is accounted for before the rest. -/
@[simp] theorem of_cons (notice : Notice) (notices : List Notice) :
    of (notice :: notices) = notice.account + of notices :=
  List.sum_cons

/-- Two lists of notices are accounted for one after the other. -/
theorem of_append (notices further : List Notice) :
    of (notices ++ further) = of notices + of further := by
  rw [of, List.map_append, List.sum_append, of, of]

/-- Remarks tell nothing of the results. -/
theorem of_remarks {notices : List Notice} (remarks : ∀ notice ∈ notices, notice.isRemark = true) :
    of notices = 0 := by
  refine List.sum_eq_zero fun account member => ?_
  obtain ⟨notice, given, rfl⟩ := List.mem_map.mp member
  have remark := remarks notice given
  cases notice <;> first | rfl | cases remark

/-- A pattern that is found in the cache counts once, whether it is taken or not. -/
theorem of_reuse {notice : Notice} (reuse : notice.isReuse = true) :
    of [notice] = { reused := 1 } := by
  cases notice <;> first | rfl | cases reuse

/-- The announcement of a job is no result. -/
theorem of_announced {notice : Notice} {job : Job} (announces : notice.Announces job) :
    of [notice] = 0 := by
  cases announces <;> rfl

/-- The changes of a graph are told one by one. -/
theorem of_changed (entries : List LogEntry) :
    of (entries.map fun entry => .changed entry.change) =
      { changes := entries.map LogEntry.change } := by
  induction entries with
  | nil => rfl
  | cons entry entries inductionHypothesis =>
      rw [List.map_cons, of_cons, inductionHypothesis]
      rfl

end Account

namespace Flow

open RecoveryM

variable {σ : Type} {backend : Backend σ} {settings : Settings}

/-- What a recovery has recorded of its results. -/
def Recovery.account (state : Recovery σ) : Account where
  started := state.report.tasksRun
  finished := state.report.tasksFinished
  failed := state.report.tasksFailed
  unknown := state.report.unknownHandlers
  reused := state.cache.hits
  revisited := state.graph.log.countP fun entry => entry.change.isSkip
  changes := state.graph.log.map LogEntry.change

/-- Between two states as much was recorded as was reported. -/
def Accounts (state after : Recovery σ) : Prop :=
  ∃ reported, state.session.Reports after.session reported ∧
    after.account = state.account + .of reported

namespace Accounts

variable {state middle after : Recovery σ}

/-- Nothing that counts was recorded or reported. -/
theorem of_same (sameSession : after.session = state.session)
    (same : after.account = state.account) : Accounts state after :=
  ⟨[], sameSession ▸ .refl state.session, by rw [same, Account.of_nil, add_zero]⟩

/-- A recovery that stays as it is accounts for itself. -/
theorem refl (state : Recovery σ) : Accounts state state :=
  .of_same rfl rfl

/-- Accounts of two stretches add up, the first stretch first. -/
theorem trans (first : Accounts state middle) (second : Accounts middle after) :
    Accounts state after := by
  obtain ⟨reported, reports, same⟩ := first
  obtain ⟨further, reportsFurther, sameFurther⟩ := second
  refine ⟨reported ++ further, reports.trans reportsFurther, ?_⟩
  rw [sameFurther, same, Account.of_append, add_assoc]

end Accounts

/-! What happens in a job. -/

/-- Every act records as much as it reports. -/
theorem Act.accounts {state after : Recovery σ} (act : Act state after) : Accounts state after := by
  cases act with
  | remarks remarks reports =>
      exact ⟨_, reports, by rw [Account.of_remarks remarks, add_zero]; rfl⟩
  | adjusts | learns | misses => exact .of_same rfl rfl
  | reuses reuse reports =>
      refine ⟨_, reports, ?_⟩
      rw [Account.of_reuse reuse]
      simp [Recovery.account, Account.add_def, Account.append]
  | countsUnknown position steps reports =>
      refine ⟨_, reports, ?_⟩
      simp [Recovery.account, Account.add_def, Account.append, Notice.account]
  | grows gains reports =>
      obtain ⟨log, noSkip⟩ := gains
      refine ⟨_, reports, ?_⟩
      rw [Account.of_changed]
      simpa [Recovery.account, Account.add_def, Account.append, log] using noSkip
  | revisits logs reports =>
      refine ⟨_, reports, ?_⟩
      simp [Recovery.account, Account.add_def, Account.append, Notice.account, show _ = _ from logs,
        Change.isSkip]
  | queues announces reports =>
      refine ⟨_, reports, ?_⟩
      rw [Account.of_announced announces, add_zero]
      rfl

/-- So does every sequence of acts. -/
theorem Acts.accounts {state after : Recovery σ} (acts : Acts state after) :
    Accounts state after := by
  induction acts with
  | refl => exact .refl state
  | tail _ act inductionHypothesis => exact inductionHypothesis.trans act.accounts

/-- A job is settled with one count and the one notice that belongs to it. -/
theorem Closes.accounts {state after : Recovery σ} (closes : Closes state after) :
    Accounts state after := by
  cases closes with
  | finishes reports =>
      refine ⟨_, reports, ?_⟩
      simp [Recovery.account, Account.add_def, Account.append, Notice.account]
  | fails reports =>
      refine ⟨_, reports, ?_⟩
      simp [Recovery.account, Account.add_def, Account.append, Notice.account]
  | givesUp => exact .refl state

/-- A job is started with one count and the one notice that belongs to it. -/
theorem accounts_begun (state : Recovery σ) (job : Job) : Accounts state (state.begun job) := by
  refine ⟨_, .note _ _, ?_⟩
  simp [Recovery.account, Recovery.begun, Account.add_def, Account.append, Notice.account]

/-- A remark is made, and other things may change that do not count. -/
theorem Accounts.of_remark {state after : Recovery σ} {notice : Notice}
    (remark : notice.isRemark = true) (reports : state.session.Reports after.session [notice])
    (same : after.account = state.account) : Accounts state after :=
  ⟨_, reports, by rw [Account.of_remarks (by simpa using remark), add_zero, same]⟩

namespace RecoveryM

/-- A whole job records as much as it reports, whether it succeeds or fails. -/
theorem runCounted_accounts (job : Job) :
    Relates Accounts (runCounted backend settings job) := fun state =>
  runCounted_keeps backend settings job (accounts_begun state job)
    (fun held acts => held.trans acts.accounts) fun held closes => held.trans closes.accounts

/-- All jobs of a queue record as much as they report, also when one of them is fatal. -/
theorem drain_accounts (jobs : Nat) : Relates Accounts (drain backend settings jobs) := by
  induction jobs with
  | zero =>
      intro state
      simp only [drain, note, SessionM.note, SessionM.noteAll, ends_bind, ends_get]
      split
      · exact .of_remark (by rfl) (.note _ (.limitReached _ _)) rfl
      · exact .refl state
  | succ jobs inductionHypothesis =>
      intro state
      rw [drain, ends_bind, ends_get]
      split
      · exact .refl state
      · rename_i job queue waiting
        rw [ends_bind, ends_modify]
        have popped : Accounts state { state with queue } := .of_same rfl rfl
        have rest : Relates Accounts
            (runCounted backend settings job >>= fun _ => drain backend settings jobs) :=
          Relates.bind id Accounts.trans (runCounted_accounts job) fun _ => inductionHypothesis
        exact (rest _).imp (fun _ _ => popped.trans) fun _ _ => popped.trans

/-- A recovery returns the report as it stands then. -/
theorem finish_accounts (state : Recovery σ) :
    Ends finish state (fun report after => Accounts state after ∧ report = after.report)
      fun _ _ => False := by
  simp only [finish, count, note, SessionM.note, SessionM.noteAll, ends_bind, ends_get,
    ends_modify, ends_inSession, ends_pure]
  exact ⟨.of_remark (by rfl) (.note _ (.completed _)) rfl, trivial⟩

/-- A recovery records as much as it reports, and answers with the report it has recorded. -/
theorem recoverFrom_accounts (entry : UInt64) (state : Recovery σ) :
    Ends (recoverFrom backend settings entry) state
      (fun report after => Accounts state after ∧ report = after.report)
      fun _ after => Accounts state after := by
  let requested : Recovery σ := { state with queue := state.queue ++ [.entering entry none] }
  have queued : Accounts state requested := .of_same rfl rfl
  rw [recoverFrom, ends_bind, enqueue, ends_modify, ends_bind, ends_get, ends_bind]
  refine (drain_accounts _ requested).imp ?_ fun _ _ => queued.trans
  intro _ drained accounts
  refine (finish_accounts drained).imp ?_ fun _ _ => False.elim
  rintro report after ⟨finished, returned⟩
  exact ⟨(queued.trans accounts).trans finished, returned⟩

end RecoveryM

/-- Over any number of recoveries as much is recorded as is reported. -/
theorem recoverEach_accounts (entries : List UInt64) (state : Recovery σ) :
    Accounts state (recoverEach backend settings entries state) := by
  induction entries generalizing state with
  | nil => exact .refl state
  | cons entry entries inductionHypothesis =>
      have first : Accounts state ((recoverFrom backend settings entry).run.run state).2 :=
        ends_both.mp ((recoverFrom_accounts entry state).imp (fun _ _ => And.left)
          fun _ _ => id)
      exact first.trans (inductionHypothesis _)

end Flow

/-! The wording of the notices. -/

/-- The position of an instruction is listed with a colon, unlike anything in the wording of other
notices. -/
theorem Instruction.colon_mem_text (instruction : Instruction) :
    ':' ∈ instruction.text.toList := by
  simp [Instruction.text, Position.text]

namespace Notice

/-- Whether a notice has the given wording. -/
def isWorded (wording : String) (notice : Notice) : Bool :=
  notice.message == wording

/-- The wording of a recovered instruction has a colon, which tells it from the wordings without
one. -/
theorem isWorded_recovered {wording : String} (plain : ':' ∉ wording.toList)
    (instruction : Instruction) : (recovered instruction).isWorded wording = false := by
  rw [isWorded, message, beq_eq_false_iff_ne]
  rintro rfl
  exact plain instruction.colon_mem_text

/-- The change that a notice reports. -/
def change? : Notice → Option Change
  | changed change => some change
  | _ => none

/-- The wording of a notice tells what it accounts for. -/
theorem account_eq (notice : Notice) :
    notice.account =
      { started := (notice.isWorded "task started").toNat
        finished := (notice.isWorded "task finished").toNat
        failed := (notice.isWorded "task failed").toNat
        unknown := (notice.isWorded "unknown handler").toNat
        reused := (notice.isWorded "cache hit").toNat +
          (notice.isWorded "cached pattern conflicts with selected registers").toNat
        revisited := (notice.isWorded "already visited").toNat
        changes := notice.change?.toList } := by
  cases notice with
  | recovered instruction =>
    simp [isWorded_recovered, account, Account.zero_def, change?]
  | _ => simp [account, isWorded, message, change?, Account.zero_def]

/-- The changes of the graph are reported in a wording of their own, by their kinds. -/
theorem fields_of_changed (notice : Notice) :
    (if notice.isWorded "flow graph operation" then [notice.fields] else []) =
      notice.change?.toList.map fun change => [("kind", .text change.text)] := by
  cases notice with
  | recovered instruction =>
    simp [isWorded_recovered, change?]
  | _ => simp [isWorded, message, change?, fields]

end Notice

/-- Counting goes through the notices one by one. -/
theorem countP_cons_toNat (told : Notice → Bool) (notice : Notice) (notices : List Notice) :
    (notice :: notices).countP told = (told notice).toNat + notices.countP told := by
  rw [List.countP_cons, Nat.add_comm]
  cases told notice <;> rfl

/-- What a list of notices tells is how often each wording occurs in it, and the changes. -/
theorem Account.of_eq (notices : List Notice) :
    of notices =
      { started := notices.countP (·.isWorded "task started")
        finished := notices.countP (·.isWorded "task finished")
        failed := notices.countP (·.isWorded "task failed")
        unknown := notices.countP (·.isWorded "unknown handler")
        reused := notices.countP (·.isWorded "cache hit") +
          notices.countP (·.isWorded "cached pattern conflicts with selected registers")
        revisited := notices.countP (·.isWorded "already visited")
        changes := notices.filterMap Notice.change? } := by
  induction notices with
  | nil => rfl
  | cons notice notices inductionHypothesis =>
      rw [of_cons, inductionHypothesis, notice.account_eq, add_def, append]
      simp only [countP_cons_toNat, Nat.add_add_add_comm, List.filterMap_cons]
      cases notice.change? <;> rfl

/-- The reported changes are told by their kinds, in order. -/
theorem fields_of_reported (notices : List Notice) :
    (notices.filter (·.isWorded "flow graph operation")).map Notice.fields =
      (notices.filterMap Notice.change?).map fun change => [("kind", .text change.text)] := by
  induction notices with
  | nil => rfl
  | cons notice notices inductionHypothesis =>
      have told := notice.fields_of_changed
      cases change : notice.change? <;> cases worded : notice.isWorded "flow graph operation" <;>
        simp_all

namespace Flow

variable {σ : Type}

/-- How often a recovery has given notices of a wording. -/
def Recovery.timesReported (state : Recovery σ) (wording : String) : Nat :=
  state.session.notices.toList.countP (·.isWorded wording)

/-- What a recovery has reported under a wording, by the fields of the notices. -/
def Recovery.reportedAs (state : Recovery σ) (wording : String) : List (List (String × Detail)) :=
  (state.session.notices.toList.filter (·.isWorded wording)).map Notice.fields

/-- After any recoveries, each of which may return its report or be given up, the notices agree
with what has been recorded: with the counters of the report, with the hits that the cache has
gained, and with the log of the graph, of which every change is reported in its place. A report
that is returned is the one that is kept. -/
theorem notices_account_for_results (backend : Backend σ) (settings : Settings) (host : σ)
    (cache : Cache) (entries : List UInt64) :
    let state := recoverEach backend settings entries (.initial host cache)
    state.timesReported "task started" = state.report.tasksRun ∧
      state.timesReported "task finished" = state.report.tasksFinished ∧
      state.timesReported "task failed" = state.report.tasksFailed ∧
      state.timesReported "unknown handler" = state.report.unknownHandlers ∧
      cache.hits + (state.timesReported "cache hit" +
          state.timesReported "cached pattern conflicts with selected registers") =
        state.cache.hits ∧
      state.timesReported "already visited" =
        state.graph.log.countP (fun entry => entry.change.isSkip) ∧
      state.reportedAs "flow graph operation" =
        state.graph.log.map (fun entry => [("kind", .text entry.change.text)]) ∧
      ∀ entry report after, (RecoveryM.recoverFrom backend settings entry).run.run state =
        (.ok report, after) → report = after.report := by
  intro state
  obtain ⟨reported, reports, same⟩ : Accounts (.initial host cache) state :=
    recoverEach_accounts entries _
  have all : state.session.notices.toList = reported := reports.toList_eq
  have told : state.account = Account.append { reused := cache.hits } (.of reported) := same
  rw [Account.of_eq, ← all] at told
  simp only [Account.append, Nat.zero_add, List.nil_append] at told
  obtain ⟨started, finished, failed, unknown, reused, revisited, changes⟩ :=
    Account.ext_iff.mp told
  refine ⟨started.symm, finished.symm, failed.symm, unknown.symm, reused.symm, revisited.symm, ?_,
    fun entry report after ran => ?_⟩
  · have sameChanges : state.session.notices.toList.filterMap Notice.change? =
        state.graph.log.map LogEntry.change := changes.symm
    rw [Recovery.reportedAs, fields_of_reported, sameChanges, List.map_map]
    rfl
  · exact ((RecoveryM.recoverFrom_accounts entry state).of_ok ran).2

end Flow

end VmRecovery

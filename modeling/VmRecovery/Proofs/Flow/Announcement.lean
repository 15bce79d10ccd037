import VmRecovery.Proofs.Flow.Act

/-!
# What a job reports of the queue

A job puts other jobs at the end of the queue and announces each of them; it takes none from the
front, and it starts none. `Queues` states this of what lies between two states, and
`Acts.queues` of whatever a job does.
-/

namespace VmRecovery

open VmRecovery.Flow

variable {σ : Type}

namespace Notice

/-- The job that is reported to be started. -/
def started? : Notice → Option Job
  | jobStarted job _ => some job
  | _ => none

/-- Whether a job is reported to be queued. -/
def isAnnouncement : Notice → Bool
  | jobQueued _ => true
  | exitThroughCall _ _ => true
  | _ => false

/-- Nothing is reported of the queue. -/
def IsSilent (notice : Notice) : Prop :=
  notice.started? = none ∧ notice.isAnnouncement = false

/-- A remark reports nothing of the queue. -/
theorem isSilent_of_isRemark {notice : Notice} (remark : notice.isRemark = true) :
    notice.IsSilent := by
  cases notice <;> first | exact ⟨rfl, rfl⟩ | cases remark

/-- A pattern that is found in the cache reports nothing of the queue. -/
theorem isSilent_of_isReuse {notice : Notice} (reuse : notice.isReuse = true) :
    notice.IsSilent := by
  cases notice <;> first | exact ⟨rfl, rfl⟩ | cases reuse

/-- What announces a job is an announcement. -/
theorem Announces.isAnnouncement {notice : Notice} {job : Job}
    (announces : notice.Announces job) : notice.isAnnouncement = true := by
  cases announces <;> rfl

/-- What announces a job does not report it as started. -/
theorem Announces.started?_eq {notice : Notice} {job : Job} (announces : notice.Announces job) :
    notice.started? = none := by
  cases announces <;> rfl

end Notice

namespace Flow

/-- The jobs that were reported to be started. -/
def Recovery.started (state : Recovery σ) : List Job :=
  state.session.notices.toList.filterMap Notice.started?

/-- The notices of jobs that were queued. -/
def Recovery.announcements (state : Recovery σ) : List Notice :=
  state.session.notices.toList.filter Notice.isAnnouncement

/-- Between two states jobs were taken from the front of the queue and started, and announced
jobs were put at its end. -/
structure Deals (started queued : List Job) (state after : Recovery σ) : Prop where
  conserved : state.queue ++ queued = started ++ after.queue
  started_eq : after.started = state.started ++ started
  announced : ∃ reported, after.announcements = state.announcements ++ reported ∧
    List.Forall₂ Notice.Announces reported queued

namespace Deals

variable {state middle after : Recovery σ} {started startedMore queued queuedMore : List Job}

/-- Where the queue stays as it is and nothing is reported of it, no job was dealt with. -/
theorem of_silent {reported : List Notice} (sameQueue : after.queue = state.queue)
    (reports : state.session.Reports after.session reported)
    (silent : ∀ notice ∈ reported, notice.IsSilent) : Deals [] [] state after where
  conserved := by simp [sameQueue]
  started_eq := by
    have none : reported.filterMap Notice.started? = [] :=
      List.filterMap_eq_nil_iff.mpr fun notice member => (silent notice member).1
    rw [Recovery.started, reports.toList_eq, List.filterMap_append, none]
    rfl
  announced := by
    have none : reported.filter Notice.isAnnouncement = [] :=
      List.filter_eq_nil_iff.mpr fun notice member => by simp [(silent notice member).2]
    refine ⟨[], ?_, .nil⟩
    rw [Recovery.announcements, reports.toList_eq, List.filter_append, none]
    rfl

/-- What touches neither the queue nor the notices. -/
theorem of_same (sameQueue : after.queue = state.queue)
    (sameSession : after.session = state.session) : Deals [] [] state after := by
  have reports : state.session.Reports after.session [] := sameSession ▸ .refl state.session
  exact .of_silent sameQueue reports (by simp)

/-- What is dealt with in two stretches is dealt with in one, the first stretch first. -/
theorem trans (first : Deals started queued state middle)
    (second : Deals startedMore queuedMore middle after) :
    Deals (started ++ startedMore) (queued ++ queuedMore) state after where
  conserved := by
    rw [← List.append_assoc, first.conserved, List.append_assoc, second.conserved,
      List.append_assoc]
  started_eq := by rw [second.started_eq, first.started_eq, List.append_assoc]
  announced := by
    obtain ⟨reported, same, announces⟩ := first.announced
    obtain ⟨more, sameMore, announcesMore⟩ := second.announced
    exact ⟨reported ++ more, by rw [sameMore, same, List.append_assoc],
      List.rel_append announces announcesMore⟩

/-- A job is announced and queued. -/
theorem of_announced {notice : Notice} {job : Job} {session : Session σ}
    (announces : notice.Announces job)
    (reports : state.session.Reports session [notice]) :
    Deals [] [job] state { state with session, queue := state.queue ++ [job] } where
  conserved := rfl
  started_eq := by
    simp [Recovery.started, reports.toList_eq, List.filterMap_append, announces.started?_eq]
  announced := by
    refine ⟨[notice], ?_, .cons announces .nil⟩
    simp [Recovery.announcements, reports.toList_eq, List.filter_append,
      announces.isAnnouncement]

end Deals

/-- Between two states announced jobs were put at the end of the queue, and none was started. -/
def Queues (state after : Recovery σ) : Prop :=
  ∃ queued, Deals [] queued state after

/-- Where the queue stays as it is and nothing is reported of it, no job was queued. -/
theorem Queues.of_silent {state after : Recovery σ} {reported : List Notice}
    (sameQueue : after.queue = state.queue) (reports : state.session.Reports after.session reported)
    (silent : ∀ notice ∈ reported, notice.IsSilent) : Queues state after :=
  ⟨[], .of_silent sameQueue reports silent⟩

/-- What is queued in two stretches is queued in one. -/
theorem Queues.trans {state middle after : Recovery σ} (first : Queues state middle)
    (second : Queues middle after) : Queues state after := by
  obtain ⟨queued, deals⟩ := first
  obtain ⟨more, dealsMore⟩ := second
  exact ⟨queued ++ more, deals.trans dealsMore⟩

/-- An act starts no job and announces the one that it queues. -/
theorem Act.queuesAnnounced {state after : Recovery σ} (act : Act state after) :
    Queues state after := by
  cases act with
  | remarks remarks reports =>
      exact .of_silent rfl reports fun notice member =>
        Notice.isSilent_of_isRemark (remarks notice member)
  | adjusts | learns | misses => exact ⟨[], .of_same rfl rfl⟩
  | reuses reuse reports =>
      exact .of_silent rfl reports
        (List.forall_mem_singleton.mpr (Notice.isSilent_of_isReuse reuse))
  | countsUnknown position steps reports =>
      exact .of_silent rfl reports (by simp [Notice.IsSilent, Notice.started?,
        Notice.isAnnouncement])
  | grows gains reports =>
      exact .of_silent rfl reports (by simp [Notice.IsSilent, Notice.started?,
        Notice.isAnnouncement])
  | revisits logs reports =>
      exact .of_silent rfl reports (by simp [Notice.IsSilent, Notice.started?,
        Notice.isAnnouncement])
  | queues announces reports => exact ⟨_, .of_announced announces reports⟩

/-- So do all the acts of a job. -/
theorem Acts.queues {state after : Recovery σ} (acts : Acts state after) : Queues state after := by
  induction acts with
  | refl => exact ⟨[], .of_same rfl rfl⟩
  | tail _ act inductionHypothesis => exact inductionHypothesis.trans act.queuesAnnounced

/-- A job is settled without a word on the queue. -/
theorem Closes.queues {state after : Recovery σ} (closes : Closes state after) :
    Queues state after := by
  cases closes with
  | finishes reports =>
      exact .of_silent rfl reports (by simp [Notice.IsSilent, Notice.started?,
        Notice.isAnnouncement])
  | fails reports =>
      exact .of_silent rfl reports (by simp [Notice.IsSilent, Notice.started?,
        Notice.isAnnouncement])
  | givesUp => exact ⟨[], .of_same rfl rfl⟩

end Flow

end VmRecovery

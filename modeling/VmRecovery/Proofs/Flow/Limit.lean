import VmRecovery.Proofs.Flow.Ownership
import VmRecovery.Proofs.Flow.Persistence

/-!
# Stopping at a limit

The limit on jobs only tells how many of the queued jobs are run: no job looks at it, and a job
that is run adds to what is there without changing it. A recovery with a smaller limit has
therefore done the first part of what the same recovery does with a larger one
(`smaller_limit_recovers_part`).
-/

namespace VmRecovery.Flow

open Machine RecoveryM Trace

variable {σ : Type} {backend : Backend σ} {settings : Settings}

/-! What a graph has recorded stays at the front. -/

namespace Graph

variable {graph grown claimed created skipped : Graph} {position : Position}
  {instruction : Instruction}

/-- The log and the edges of a graph begin with those of another one. -/
def Continues (graph grown : Graph) : Prop :=
  graph.log <+: grown.log ∧ graph.edges <+: grown.edges

/-- A graph continues itself. -/
theorem Continues.refl (graph : Graph) : graph.Continues graph :=
  ⟨List.prefix_rfl, List.prefix_rfl⟩

/-- A continuation of a continuation continues the first graph. -/
theorem Continues.trans {middle : Graph} (first : graph.Continues middle)
    (second : middle.Continues grown) : graph.Continues grown :=
  ⟨first.1.trans second.1, first.2.trans second.2⟩

/-- An edge is logged and listed behind the earlier ones. -/
theorem continues_link (graph : Graph) (edge : Edge) : graph.Continues (graph.link edge).2 := by
  unfold link
  split
  · exact .refl graph
  · exact ⟨List.prefix_append _ _, List.prefix_append _ _⟩

/-- Arriving at a position at most adds an edge. -/
theorem continues_arrive (graph : Graph) (source : Option Position) (position : Position) :
    graph.Continues (graph.arrive source position) := by
  cases source with
  | none => exact .refl graph
  | some source => exact graph.continues_link _

/-- A claim that is taken up leaves the log and the edges as they are. -/
theorem continues_of_free (free : graph.claim position = (true, claimed)) :
    graph.Continues claimed := by
  obtain ⟨-, rfl⟩ := claim_eq_true free
  exact .refl graph

/-- A claim that is turned down is logged behind the earlier entries. -/
theorem continues_of_taken (taken : graph.claim position = (false, skipped)) :
    graph.Continues skipped := by
  obtain ⟨-, rfl⟩ := claim_eq_false taken
  exact ⟨List.prefix_append _ _, List.prefix_rfl⟩

/-- A new block is logged behind the earlier entries. -/
theorem continues_createBlock (creates : graph.createBlock position = .ok created) :
    graph.Continues created := by
  obtain ⟨-, -, edges, -⟩ := createBlock_eq_ok creates
  exact ⟨logs_of_createBlock creates ▸ List.prefix_append _ _, edges ▸ List.prefix_rfl⟩

/-- An instruction is appended without a change to log and edges. -/
theorem continues_appendInstruction
    (grows : graph.appendInstruction position instruction = .ok grown) :
    graph.Continues grown := by
  obtain ⟨owner, -, rfl⟩ := appendInstruction_eq_ok grows
  exact .refl graph

end Graph

/-- Every edit of a job continues the graph. -/
theorem GraphEdit.continues {walk : Walk} {graph grown : Graph}
    (edit : GraphEdit walk graph grown) : graph.Continues grown := by
  cases edit with
  | opens fresh recorded free creates grows =>
      exact (graph.continues_arrive _ _).trans <| (Graph.continues_of_free free).trans <|
        (Graph.continues_createBlock creates).trans (Graph.continues_appendInstruction grows)
  | revisits fresh taken =>
      exact (graph.continues_arrive _ _).trans (Graph.continues_of_taken taken)
  | stalls fresh free present =>
      exact (graph.continues_arrive _ _).trans (Graph.continues_of_free free)
  | appends own recorded grows => exact Graph.continues_appendInstruction grows
  | calls behind isExit grows => exact Graph.continues_appendInstruction grows
  | leaves behind isExit isSet => exact graph.continues_link _

/-- All edits of a turn together continue the graph. -/
theorem Edits.continues {walk : Walk} {state after : Recovery σ} (edits : Edits walk state after) :
    state.graph.Continues after.graph := by
  induction edits with
  | refl => exact .refl _
  | tail _ edit inductionHypothesis =>
      cases edit with
      | graph edit => exact inductionHypothesis.trans edit.continues
      | _ => exact inductionHypothesis

/-! A job adds to what is there. -/

/-- One recovery has recorded all that another one has, in the same order, and more behind it:
the blocks of the other one have not been changed since. -/
structure Extends (state after : Recovery σ) : Prop where
  log : state.graph.log <+: after.graph.log
  edges : state.graph.edges <+: after.graph.edges
  blocks : ∀ position owner, state.graph.block? position = some owner →
    after.graph.block? position = some owner
  cache : state.cache.Within after.cache

namespace Extends

variable {state middle after : Recovery σ}

/-- A recovery with the same graph and cache extends the other one. -/
theorem of_same (sameGraph : after.graph = state.graph) (sameCache : after.cache = state.cache) :
    Extends state after := by
  refine ⟨?_, ?_, ?_, ?_⟩
  · rw [sameGraph]
  · rw [sameGraph]
  · exact fun position owner found => sameGraph ▸ found
  · exact sameCache ▸ .refl _

/-- An extension of an extension extends the first recovery. -/
theorem trans (first : Extends state middle) (second : Extends middle after) :
    Extends state after where
  log := first.log.trans second.log
  edges := first.edges.trans second.edges
  blocks := fun position owner found =>
    second.blocks position owner (first.blocks position owner found)
  cache := first.cache.trans second.cache

end Extends

/-- Noting and counting leaves everything that is recorded as it is. -/
theorem Accounted.extended {state after : Recovery σ} (accounted : Accounted state after) :
    Extends state after := by
  obtain ⟨session, report, rfl⟩ := accounted
  exact .of_same rfl rfl

/-- A job has only added to a recovery, and the block that it appends to is none of that
recovery's. -/
structure Adds (start : Recovery σ) (walk : Walk) (state : Recovery σ) : Prop where
  extended : Extends start state
  ownBlock : ∀ block, walk.block = some block → ¬ start.graph.Owns block

/-- A turn leaves the blocks alone that were there before the job. -/
theorem Adds.course {start state after : Recovery σ} {walk : Walk} {walk? : Option Walk}
    (adds : Adds start walk state) (edits : Edits walk state after)
    (course : Course backend settings walk state walk? after) : Extends start after := by
  refine ⟨adds.extended.log.trans edits.continues.1, adds.extended.edges.trans edits.continues.2,
    fun position owner found => ?_, adds.extended.cache.trans edits.cache_within⟩
  have still := adds.extended.blocks position owner found
  by_contra changed
  exact adds.ownBlock position (course.changes still changed) ⟨owner, found⟩

namespace RecoveryM

/-- A turn keeps to what the job may do: it adds, and it appends only to the job's own block. -/
theorem turn_adds {start state : Recovery σ} {walk : Walk} (adds : Adds start walk state)
    (unfinished : walk.phase ≠ .finished) :
    Ends (turn backend settings walk) state
      (fun walk' after => Adds start walk' after) fun _ after => Extends start after := by
  refine (turn_ends backend settings state unfinished).ran.imp ?_ ?_
  · rintro walk' after ⟨turned, edits, -⟩
    have course := (turn_course backend settings state unfinished).of_ok turned
    refine ⟨adds.course edits course, fun block own => ?_⟩
    rcases course.opens own with before | ⟨new, -⟩
    · exact adds.ownBlock block before
    · rintro ⟨owner, found⟩
      exact new ⟨owner, adds.extended.blocks block owner found⟩
  · rintro fault after ⟨turned, edits⟩
    exact adds.course edits ((turn_course backend settings state unfinished).of_error turned)

/-- All turns of a job extend the recovery that it started on, even if one of them fails. -/
theorem drive_adds {start : Recovery σ} (turns : Nat) {state : Recovery σ} {walk : Walk}
    (adds : Adds start walk state) :
    Ends (drive backend settings turns walk) state
      (fun _ => Extends start) fun _ => Extends start := by
  induction turns generalizing walk state with
  | zero => exact adds.extended
  | succ turns inductionHypothesis =>
      by_cases finished : walk.phase = .finished
      · rw [drive_finished backend settings turns finished]
        exact adds.extended
      · rw [drive_succ backend settings turns finished, ends_bind]
        exact (turn_adds adds finished).imp (fun _ _ => inductionHypothesis) fun _ _ => id

/-- Settling a job changes counts only, so what was extended still is. -/
theorem settle_extends {start state : Recovery σ} (outcome : Except Fault Unit)
    (extended : Extends start state) :
    Ends (settle outcome) state (fun _ => Extends start) fun _ => Extends start := by
  refine (settle_ends outcome state).imp ?_ ?_
  · rintro _ _ ⟨session, finished, failed, -, rfl⟩
    exact extended.trans (.of_same rfl rfl)
  · rintro _ _ rfl
    exact extended

/-- A job adds to the recovery, whether it is finished or fails. -/
theorem runCounted_extends (job : Job) :
    Relates Extends (runCounted backend settings job) := by
  intro state
  rw [ends_runCounted]
  refine (launch_ends backend settings job state).imp ?_ ?_
  · rintro walk launched ⟨steps, session, isLaunched, isWalk⟩
    have began : Adds state walk launched := by
      rw [isLaunched, isWalk]
      exact ⟨.of_same rfl rfl, fun _ own => by cases own⟩
    exact (drive_adds _ began).imp (fun _ _ => settle_extends _) fun _ _ => settle_extends _
  · rintro fault failed ⟨session, rfl⟩
    exact settle_extends _ (.of_same rfl rfl)

/-! Serving the queue. -/

/-- Runs queued jobs, at most so many, and says nothing about those that are left. -/
def serve (backend : Backend σ) (settings : Settings) : Nat → RecoveryM σ Unit
  | 0 => return ()
  | jobs + 1 => do
      match (← get).queue with
      | [] => return ()
      | job :: queue =>
          modify fun state => { state with queue }
          runCounted backend settings job
          serve backend settings jobs

section Serve

variable {state : Recovery σ} {done : Unit → Recovery σ → Prop}
  {failed : Fault → Recovery σ → Prop}

/-- Where no job is queued there is nothing to serve. -/
theorem ends_serve_of_empty (jobs : Nat) (empty : state.queue = []) :
    Ends (serve backend settings jobs) state done failed ↔ done () state := by
  cases jobs with
  | zero => rfl
  | succ jobs => simp [serve, empty]

/-- Serving the queue runs its first job and serves the rest with one job less. -/
theorem ends_serve_succ {jobs : Nat} {job : Job} {queue : List Job}
    (queued : state.queue = job :: queue) :
    Ends (serve backend settings (jobs + 1)) state done failed ↔
      Ends (runCounted backend settings job) { state with queue }
        (fun _ after => Ends (serve backend settings jobs) after done failed) failed := by
  simp [serve, queued]

/-- More jobs are served by serving some of them first. -/
theorem ends_serve_add (jobs further : Nat) :
    Ends (serve backend settings (jobs + further)) state done failed ↔
      Ends (serve backend settings jobs) state
        (fun _ after => Ends (serve backend settings further) after done failed) failed := by
  induction jobs generalizing state with
  | zero => rw [Nat.zero_add, serve, ends_pure]
  | succ jobs inductionHypothesis =>
      cases queued : state.queue with
      | nil =>
          rw [ends_serve_of_empty _ queued, ends_serve_of_empty _ queued,
            ends_serve_of_empty _ queued]
      | cons job queue =>
          rw [Nat.succ_add, ends_serve_succ queued, ends_serve_succ queued]
          simp only [inductionHypothesis]

/-- Draining the queue is serving it and reporting what is left. -/
theorem ends_drain (jobs : Nat) :
    Ends (drain backend settings jobs) state done failed ↔
      Ends (serve backend settings jobs) state
        (fun _ after => Ends (drain backend settings 0) after done failed) failed := by
  induction jobs generalizing state with
  | zero => rfl
  | succ jobs inductionHypothesis =>
      cases queued : state.queue with
      | nil =>
          rw [ends_serve_of_empty _ queued]
          simp [drain, queued]
      | cons job queue =>
          rw [ends_serve_succ queued]
          simp only [← inductionHypothesis]
          simp [drain, queued]

/-- What has been served stays as it is. -/
theorem serve_extends (jobs : Nat) : Relates Extends (serve backend settings jobs) := by
  intro state
  induction jobs generalizing state with
  | zero => exact .of_same rfl rfl
  | succ jobs inductionHypothesis =>
      cases queued : state.queue with
      | nil =>
          rw [ends_serve_of_empty _ queued]
          exact .of_same rfl rfl
      | cons job queue =>
          rw [ends_serve_succ queued]
          have began : Extends state { state with queue } := .of_same rfl rfl
          refine (runCounted_extends job { state with queue }).imp ?_ ?_
          · intro _ after ran
            exact (inductionHypothesis after).imp (fun _ _ rest => (began.trans ran).trans rest)
              fun _ _ rest => (began.trans ran).trans rest
          · exact fun _ after ran => began.trans ran

end Serve

/-! No job looks at the limit. -/

/-- No turn looks at the limit on jobs. -/
theorem turn_anyLimit (limit : Nat) (walk : Walk) :
    turn backend { settings with maxTasks := limit } walk = turn backend settings walk :=
  rfl

/-- No job looks at the limit on jobs while it is driven. -/
theorem drive_anyLimit (limit turns : Nat) (walk : Walk) :
    drive backend { settings with maxTasks := limit } turns walk =
      drive backend settings turns walk := by
  induction turns generalizing walk with
  | zero => rfl
  | succ turns inductionHypothesis =>
      by_cases finished : walk.phase = .finished
      · rw [drive_finished _ _ turns finished, drive_finished _ _ turns finished]
      · rw [drive_succ _ _ turns finished, drive_succ _ _ turns finished, turn_anyLimit]
        exact bind_congr inductionHypothesis

/-- No job looks at the limit on jobs from its launch until it is settled. -/
theorem runCounted_anyLimit (limit : Nat) (job : Job) :
    runCounted backend { settings with maxTasks := limit } job =
      runCounted backend settings job := by
  have same : runJob backend { settings with maxTasks := limit } job =
      runJob backend settings job := by
    simp only [runJob, drive_anyLimit]
    rfl
  rw [runCounted, same, runCounted]

/-- Serving the queue depends on its own bound only. -/
theorem serve_anyLimit (limit jobs : Nat) :
    serve backend { settings with maxTasks := limit } jobs = serve backend settings jobs := by
  induction jobs with
  | zero => rfl
  | succ jobs inductionHypothesis =>
      simp only [serve, runCounted_anyLimit, inductionHypothesis]

/-! Recoveries with different limits. -/

/-- A recovery serves as many jobs as the limit leaves and is then concluded. -/
theorem run_recoverFrom (entry : UInt64) (state : Recovery σ) :
    (recoverFrom backend settings entry).run.run state =
      (serve backend settings (settings.maxTasks - state.report.tasksRun) >>= fun _ =>
        conclude backend settings).run.run
          { state with queue := state.queue ++ [.entering entry none] } := by
  refine run_eq_of_ends fun done failed => ?_
  rw [recoverFrom, ends_bind, enqueue, ends_modify, ends_bind, ends_get, ends_bind, ends_drain]
  simp only [conclude, ends_bind]

/-- Serving some of the jobs and then the others comes to serving them all. -/
theorem run_serve_add (jobs further : Nat) (state : Recovery σ) {α : Type}
    (next : RecoveryM σ α) :
    (serve backend settings (jobs + further) >>= fun _ => next).run.run state =
      (serve backend settings jobs >>= fun _ => serve backend settings further >>= fun _ =>
        next).run.run state := by
  refine run_eq_of_ends fun done failed => ?_
  rw [ends_bind, ends_serve_add, ends_bind]
  simp only [ends_bind]

/-- A recovery always gets concluded. -/
theorem conclude_completes (backend : Backend σ) (settings : Settings) (state : Recovery σ) :
    ∃ report after, (conclude backend settings).run.run state = (.ok report, after) ∧
      Accounted state after := by
  have ends : Ends (conclude backend settings) state
      (fun _ after => Accounted state after) fun _ _ => False := by
    simp only [conclude, drain, finish, count, note, SessionM.note, SessionM.noteAll, ends_bind,
      ends_modify, ends_inSession, ends_get, ends_pure]
    split
    · exact ⟨_, _, rfl⟩
    · exact ⟨_, _, rfl⟩
  rcases ran : (conclude backend settings).run.run state with ⟨fault | report, after⟩
  · exact (ends.of_error ran).elim
  · exact ⟨report, after, rfl, ends.of_ok ran⟩

/-- What comes after some jobs have been served leaves what they have recorded as it is. -/
theorem serve_conclude_extends (jobs : Nat) :
    Relates Extends (serve backend settings jobs >>= fun _ => conclude backend settings) := by
  refine (serve_extends jobs).bind id Extends.trans fun _ state => ?_
  obtain ⟨report, after, concluded, accounted⟩ := conclude_completes backend settings state
  exact (ends_iff_of_ok concluded).mpr accounted.extended

end RecoveryM

/-- A recovery with a smaller limit recovers part of what it recovers with a larger one: its log
and its edges come first, its blocks have the same instructions, and its patterns are known. It is
given up only where the other one is given up, too, in the same state. -/
theorem smaller_limit_recovers_part (backend : Backend σ) (settings : Settings) (entry : UInt64)
    (state : Recovery σ) {fewer more : Nat} (le : fewer ≤ more) :
    let short := (recoverFrom backend { settings with maxTasks := fewer } entry).run.run state
    let long := (recoverFrom backend { settings with maxTasks := more } entry).run.run state
    Extends short.2 long.2 ∧ ∀ fault, short.1 = .error fault → long = short := by
  intro short long
  let tight : Settings := { settings with maxTasks := fewer }
  let wide : Settings := { settings with maxTasks := more }
  let queued : Recovery σ := { state with queue := state.queue ++ [.entering entry none] }
  let jobs := fewer - state.report.tasksRun
  obtain ⟨further, split⟩ : ∃ further, more - state.report.tasksRun = jobs + further :=
    Nat.exists_eq_add_of_le (Nat.sub_le_sub_right le _)
  have shortRan : short = (serve backend settings jobs >>= fun _ =>
      conclude backend tight).run.run queued := by
    rw [← serve_anyLimit fewer]
    exact run_recoverFrom entry state
  have longRan : long = (serve backend settings jobs >>= fun _ =>
      serve backend wide further >>= fun _ => conclude backend wide).run.run queued := by
    rw [← serve_anyLimit more, ← run_serve_add, ← split]
    exact run_recoverFrom entry state
  rw [run_run_bind] at shortRan longRan
  rcases served : (serve backend settings jobs).run.run queued with ⟨fault | answer, reached⟩
  · -- Both are given up in a job that they have in common.
    rw [shortRan, longRan, served]
    exact ⟨.of_same rfl rfl, fun _ _ => rfl⟩
  · -- The one with the smaller limit is concluded, the other one goes on.
    replace shortRan : short = (conclude backend tight).run.run reached := by
      rw [shortRan, served]
    replace longRan : long = (serve backend wide further >>= fun _ =>
        conclude backend wide).run.run reached := by
      rw [longRan, served]
    obtain ⟨report, after, concluded, session, report', rfl⟩ :=
      conclude_completes backend tight reached
    have extended : Extends reached long.2 := by
      rw [longRan]
      exact ends_both.mp (serve_conclude_extends further reached)
    rw [shortRan, concluded]
    exact ⟨⟨extended.log, extended.edges, extended.blocks, extended.cache⟩, by simp⟩

section Witness

open Simulation

/-- A recovery of code that pops and jumps behind its entry routine, of so many jobs at most. -/
def dispatchedWithin (limit : Nat) : Except Fault Report × Recovery Host :=
  (recoverFrom (dispatcher 0x30).backend { ({} : Settings) with maxTasks := limit } 0x10).run.run
    (.initial {} {})

/-- A single job recovers the entry routine, which stays as it is when a second one is allowed. -/
theorem single_job_recovers_entry :
    1 ≤ 2 ∧ mnemonics (dispatchedWithin 1).2.graph = [["vInit"]] ∧
      mnemonics (dispatchedWithin 2).2.graph = [["vInit"], ["vPopReg", "vJmp"]] ∧
      Extends (dispatchedWithin 1).2 (dispatchedWithin 2).2 := by
  have fewer : 1 ≤ 2 := by decide
  have single : mnemonics (dispatchedWithin 1).2.graph = [["vInit"]] := by cbv
  have both : mnemonics (dispatchedWithin 2).2.graph = [["vInit"], ["vPopReg", "vJmp"]] := by cbv
  exact ⟨fewer, single, both,
    (smaller_limit_recovers_part (dispatcher 0x30).backend {} 0x10 (.initial {} {}) fewer).1⟩

end Witness

end VmRecovery.Flow

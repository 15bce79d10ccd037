import VmRecovery.Proofs.Flow.Growth
import VmRecovery.Proofs.Flow.Stage

/-!
# The recovered graph is connected

Between the advances of a run the graph is closed, and control flows to every block from a root:
the block that a requested job opened at an entry routine. The queue only holds requested jobs
and jobs that continue a block, so whatever a job opens is reached from a block that was reached
before, or is a root itself.
-/

namespace VmRecovery.Flow

open Machine RecoveryM Trace

variable {σ : Type} {backend : Backend σ} {settings : Settings} {start stage stage' : Stage σ}
  {root position : Position}

/-- A run from one stage to another opens a block for a job that was requested, rather than
queued by another job. -/
def OpensRoot (backend : Backend σ) (settings : Settings) (start stage : Stage σ)
    (root : Position) : Prop :=
  ∃ before after walk, ∃ entry ∈ start.entries,
    before.activity = .running (.entering entry none) walk ∧
    ¬ before.state.graph.Owns root ∧ after.state.graph.Owns root ∧
    Runs backend settings start before ∧ Advance backend settings before after ∧
    Runs backend settings after stage

/-- A root that was opened remains one at later stages. -/
theorem OpensRoot.advance (opens : OpensRoot backend settings start stage root)
    (advance : Advance backend settings stage stage') :
    OpensRoot backend settings start stage' root := by
  obtain ⟨before, after, walk, entry, requested, running, absent, owned, earlier, opening, later⟩ :=
    opens
  exact ⟨before, after, walk, entry, requested, running, absent, owned, earlier, opening,
    later.tail advance⟩

/-- Control flows to a position from a root. -/
def Rooted (backend : Backend σ) (settings : Settings) (start stage : Stage σ)
    (position : Position) : Prop :=
  ∃ root, OpensRoot backend settings start stage root ∧ stage.state.graph.Enters root ∧
    Relation.ReflTransGen stage.state.graph.Flows root position

/-- A running job continues the block that it was queued for. One that was requested seeks the
entry routine until it has found it. -/
structure Job.Running (entries : List UInt64) (graph : Graph) (job : Job) (walk : Walk) :
    Prop where
  placed : job.Placed entries graph
  sameSource : walk.source = job.source
  seeks : walk.source = none → walk.phase = .seekingEntry ∨ walk.phase = .finished

/-- What holds of every stage of a run. -/
structure Connected (backend : Backend σ) (settings : Settings) (start stage : Stage σ) :
    Prop where
  closed : stage.state.graph.Closed
  rooted : ∀ position, stage.state.graph.Owns position →
    Rooted backend settings start stage position
  pending : stage.entries ⊆ start.entries
  queued : ∀ job ∈ stage.state.queue, job.Placed start.entries stage.state.graph
  running : ∀ job walk, stage.activity = .running job walk →
    job.Running start.entries stage.state.graph walk

/-- What is reached from a root is still reached when the graph has grown. -/
theorem Rooted.grows {walk : Walk} (rooted : Rooted backend settings start stage position)
    (advance : Advance backend settings stage stage')
    (grows : Grows walk stage.state.graph stage'.state.graph) :
    Rooted backend settings start stage' position := by
  obtain ⟨root, opens, enters, reaches⟩ := rooted
  refine ⟨root, opens.advance advance, grows.enters enters, ?_⟩
  exact Relation.ReflTransGen.mono (fun _ _ flows => grows.edges flows) _ _ reaches

/-- The block that a running job continues is there. -/
theorem Job.Running.owns_source {entries : List UInt64} {job : Job} {walk : Walk} {graph : Graph}
    {source : Position} (running : job.Running entries graph walk)
    (isSource : walk.source = some source) :
    graph.Owns source := by
  have continues : job.source = some source := running.sameSource.symm.trans isSource
  rcases running.placed with ⟨entry, -, rfl⟩ | ⟨other, isOther, owned⟩
  · cases continues
  · obtain rfl : source = other := Option.some.inj (continues.symm.trans isOther)
    exact owned

/-- A running job that continues no block was requested. -/
theorem Job.Running.requested {entries : List UInt64} {job : Job} {walk : Walk} {graph : Graph}
    (running : job.Running entries graph walk) (isRoot : walk.source = none) :
    ∃ entry ∈ entries, job = .entering entry none := by
  rcases running.placed with requested | ⟨source, isSource, -⟩
  · exact requested
  · cases isSource.symm.trans (running.sameSource.symm.trans isRoot)

/-- A running job has its place in the graph until it is finished. -/
theorem Job.Running.walk_placed {entries : List UInt64} {job : Job} {walk : Walk} {graph : Graph}
    (running : job.Running entries graph walk) (unfinished : walk.phase ≠ .finished) :
    walk.Placed graph where
  continues := fun _ isSource => running.owns_source isSource
  seeks := fun isRoot => (running.seeks isRoot).resolve_right unfinished

/-- A turn leaves a job running for the same block. -/
theorem Job.Running.continued {entries : List UInt64} {job : Job} {walk walk' : Walk}
    {graph grown : Graph} {grouping : Grouping} (running : job.Running entries graph walk)
    (unfinished : walk.phase ≠ .finished) (continued : Continued walk walk' grouping)
    (grows : Grows walk graph grown) :
    job.Running entries grown walk' where
  placed := running.placed.grows grows
  sameSource := continued.sameSource.trans running.sameSource
  seeks := by
    intro isRoot
    have seeking := running.seeks (continued.sameSource.symm.trans isRoot)
    exact continued.seeking (seeking.resolve_right unfinished)

namespace Connected

/-- What a turn opens is reached from a root: it is one, or is flowed to from the block that the
job continues. -/
theorem rooted_of_grows {job : Job} {walk : Walk}
    (connected : Connected backend settings start stage) (runs : Runs backend settings start stage)
    (running : stage.activity = .running job walk)
    (advance : Advance backend settings stage stage')
    (grows : Grows walk stage.state.graph stage'.state.graph)
    (owned : stage'.state.graph.Owns position) :
    Rooted backend settings start stage' position := by
  have runningJob := connected.running job walk running
  by_cases known : stage.state.graph.Owns position
  · exact (connected.rooted position known).grows advance grows
  · rcases grows.opened position owned with old | ⟨isRoot, enters⟩ | ⟨source, isSource, flows⟩
    · exact absurd old known
    · obtain ⟨entry, requested, rfl⟩ := runningJob.requested isRoot
      exact ⟨position, ⟨stage, stage', walk, entry, requested, running, known, owned, runs, advance,
        .refl⟩, enters, .refl⟩
    · have rooted := connected.rooted source (runningJob.owns_source isSource)
      obtain ⟨root, opens, enters, reaches⟩ := rooted.grows advance grows
      exact ⟨root, opens, enters, reaches.tail flows⟩

/-- A stage with the graph of the one before is connected if its jobs are placed. -/
theorem of_sameGraph (connected : Connected backend settings start stage)
    (advance : Advance backend settings stage stage')
    (same : stage'.state.graph = stage.state.graph)
    (pending : stage'.entries ⊆ stage.entries)
    (queued : ∀ job ∈ stage'.state.queue, job.Placed start.entries stage.state.graph)
    (running : ∀ job walk, stage'.activity = .running job walk →
      job.Running start.entries stage.state.graph walk) :
    Connected backend settings start stage' where
  closed := same ▸ connected.closed
  rooted := by
    intro position owned
    obtain ⟨root, opens, enters, reaches⟩ := connected.rooted position (same ▸ owned)
    exact ⟨root, opens.advance advance, same ▸ enters, same ▸ reaches⟩
  pending := fun _ member => connected.pending (pending member)
  queued := same ▸ queued
  running := same ▸ running

/-- A stage that the edits of a job lead to is connected if the job still runs as it should. -/
theorem of_edits {job : Job} {walk : Walk} {after : Recovery σ}
    (connected : Connected backend settings start stage) (runs : Runs backend settings start stage)
    (running : stage.activity = .running job walk) (unfinished : walk.phase ≠ .finished)
    (advance : Advance backend settings stage stage') (edits : Edits walk stage.state after)
    (sameGraph : stage'.state.graph = after.graph) (sameQueue : stage'.state.queue = after.queue)
    (sameEntries : stage'.entries = stage.entries)
    (continues : ∀ job walk', stage'.activity = .running job walk' →
      Grows walk stage.state.graph after.graph → job.Running start.entries after.graph walk') :
    Connected backend settings start stage' := by
  have placed := (connected.running job walk running).walk_placed unfinished
  obtain ⟨closed, grows, queued⟩ := edits.grows connected.closed placed connected.queued
  rw [← sameGraph] at closed grows queued continues
  refine ⟨closed, fun position owned => ?_, sameEntries ▸ connected.pending, sameQueue ▸ queued, ?_⟩
  · exact connected.rooted_of_grows runs running advance grows owned
  · exact fun job walk' still => continues job walk' still grows

/-- The graph stays connected through a step of a run. -/
theorem advance (connected : Connected backend settings start stage)
    (runs : Runs backend settings start stage) (advance : Advance backend settings stage stage') :
    Connected backend settings start stage' := by
  have settled : ∀ outcome job walk, Activity.settled outcome = .running job walk →
      job.Running start.entries stage.state.graph walk :=
    fun outcome job walk running => absurd running (Activity.settled_ne_running outcome job walk)
  cases advance.transition with
  | requests =>
      refine connected.of_sameGraph advance rfl (List.subset_cons_self _ _) (fun job member => ?_)
        (by simp)
      rcases List.mem_append.mp member with old | new
      · exact connected.queued job old
      · exact .inl ⟨_, connected.pending List.mem_cons_self, List.mem_singleton.mp new⟩
  | launches queued =>
      have placed := fun job member => connected.queued job (queued ▸ member)
      refine connected.of_sameGraph advance rfl (List.Subset.refl _)
        (fun other member => placed other (List.mem_cons_of_mem _ member)) ?_
      rintro _ _ ⟨⟩
      refine ⟨placed _ List.mem_cons_self, rfl, fun isRoot => .inl ?_⟩
      rcases placed _ List.mem_cons_self with ⟨entry, -, rfl⟩ | ⟨source, isSource, -⟩
      · rfl
      · cases isSource.symm.trans isRoot
  | stumbles queued =>
      exact connected.of_sameGraph advance rfl (List.Subset.refl _)
        (fun other member => connected.queued other (queued ▸ List.mem_cons_of_mem _ member))
        (settled _)
  | turns unfinished edits continued =>
      refine connected.of_edits runs rfl unfinished advance edits rfl rfl rfl ?_
      rintro _ _ ⟨⟩ grows
      exact (connected.running _ _ rfl).continued unfinished continued grows
  | fails unfinished edits accounted =>
      obtain ⟨session, report, rfl⟩ := accounted
      refine connected.of_edits runs rfl unfinished advance edits rfl rfl rfl ?_
      exact fun job walk running => absurd running (Activity.settled_ne_running _ job walk)
  | completes accounted =>
      obtain ⟨session, report, rfl⟩ := accounted
      exact connected.of_sameGraph advance rfl (List.Subset.refl _) connected.queued (settled _)
  | concludes accounted =>
      obtain ⟨session, report, rfl⟩ := accounted
      exact connected.of_sameGraph advance rfl (List.Subset.refl _) connected.queued (by simp)

/-- The graph is connected at every moment of a run. -/
theorem runs (connected : Connected backend settings start start)
    (runs : Runs backend settings start stage) : Connected backend settings start stage := by
  induction runs with
  | refl => exact connected
  | tail earlier advance inductionHypothesis => exact inductionHypothesis.advance earlier advance

/-- At first there is nothing to connect. -/
theorem initial (backend : Backend σ) (settings : Settings) (host : σ) (cache : Cache)
    (entries : List UInt64) :
    Connected backend settings ⟨.waiting, entries, .initial host cache⟩
      ⟨.waiting, entries, .initial host cache⟩ where
  closed := Graph.closed_empty
  rooted := by
    rintro position ⟨owner, found⟩
    simp [Recovery.initial, Graph.block?] at found
  pending := List.Subset.refl entries
  queued := by simp [Recovery.initial]
  running := by simp

end Connected

/-- After any recoveries, one after the other, every edge leaves a block, flow edges lead to
blocks and native edges out of the virtual machine, and control flows to every block from the
entry routine of a root, whatever the collaborators answered and wherever they failed. -/
theorem flow_graph_connected (backend : Backend σ) (settings : Settings) (host : σ)
    (cache : Cache) (entries : List UInt64) :
    let start : Stage σ := ⟨.waiting, entries, .initial host cache⟩
    let final : Stage σ :=
      ⟨.waiting, [], recoverEach backend settings entries (.initial host cache)⟩
    let graph := final.state.graph
    (∀ edge ∈ graph.edges, graph.Owns edge.source) ∧
      (∀ edge ∈ graph.edges, edge.kind = .flow → graph.Owns edge.target) ∧
      (∀ edge ∈ graph.edges, edge.kind = .native → edge.target.vm = 0) ∧
      Runs backend settings start final ∧
      ∀ position, graph.Owns position → ∃ root, OpensRoot backend settings start final root ∧
        graph.Enters root ∧ Relation.ReflTransGen graph.Flows root position := by
  intro start final graph
  have runs : Runs backend settings start final := runs_recoverEach entries _
  have connected := (Connected.initial backend settings host cache entries).runs runs
  exact ⟨connected.closed.sources, connected.closed.targets, connected.closed.natives, runs,
    connected.rooted⟩

end VmRecovery.Flow

import VmRecovery.Proofs.Flow.Edit

/-!
# How a graph grows

The edits of a job keep a graph closed: edges lead from block to block, or out of the virtual
machine, and exactly the claimed positions own blocks. An edge is recorded before the block
that it leads to exists, but both belong to one edit. What a job adds is tied to the block that
it continues, or is a root if it continues none (`Edits.grows`).
-/

namespace VmRecovery.Flow

open Machine Trace

namespace Graph

/-- A block starts at a position. -/
def Owns (graph : Graph) (position : Position) : Prop :=
  ∃ owner, graph.block? position = some owner

/-- Control flows from one position to another. -/
def Flows (graph : Graph) (source target : Position) : Prop :=
  { source, target, kind := .flow } ∈ graph.edges

/-- The block at a position starts with an entry routine. -/
def Enters (graph : Graph) (position : Position) : Prop :=
  ∃ owner first saved, graph.block? position = some owner ∧
    owner.instructions.head? = some first ∧ first.operation = .init saved

/-- Edges lead from block to block or into native code, and blocks lie where positions have been
claimed. -/
structure Closed (graph : Graph) : Prop where
  visited : ∀ position, position ∈ graph.visited ↔ graph.Owns position
  sources : ∀ edge ∈ graph.edges, graph.Owns edge.source
  targets : ∀ edge ∈ graph.edges, edge.kind = .flow → graph.Owns edge.target
  natives : ∀ edge ∈ graph.edges, edge.kind = .native → edge.target.vm = 0

/-- A graph without blocks and edges is closed. -/
theorem closed_empty : Closed {} where
  visited := by simp [Owns, block?]
  sources := by simp
  targets := by simp
  natives := by simp

end Graph

/-- A job continues a block that is there, or seeks the entry routine of a root. -/
structure Walk.Placed (walk : Walk) (graph : Graph) : Prop where
  continues : ∀ source, walk.source = some source → graph.Owns source
  seeks : walk.source = none → walk.phase = .seekingEntry

/-- What a job has made of a graph. -/
structure Grows (walk : Walk) (graph grown : Graph) : Prop where
  /-- Blocks stay and only become longer. -/
  kept : ∀ position owner, graph.block? position = some owner →
    ∃ owner', grown.block? position = some owner' ∧
      owner.instructions <+: owner'.instructions
  edges : graph.edges ⊆ grown.edges
  /-- A block is opened at the entry of a root, or flowed to from the block that the job
  continues. -/
  opened : ∀ position, grown.Owns position → graph.Owns position ∨
    (walk.source = none ∧ grown.Enters position) ∨
      ∃ source, walk.source = some source ∧ grown.Flows source position

namespace Grows

variable {walk : Walk} {graph middle grown : Graph} {position : Position}

/-- Blocks stay where they are when a graph grows. -/
theorem owns (grows : Grows walk graph grown) (owned : graph.Owns position) :
    grown.Owns position := by
  obtain ⟨owner, found⟩ := owned
  obtain ⟨owner', kept, -⟩ := grows.kept position owner found
  exact ⟨owner', kept⟩

/-- The entry of a root stays one when a graph grows. -/
theorem enters (grows : Grows walk graph grown) (entered : graph.Enters position) :
    grown.Enters position := by
  obtain ⟨owner, first, saved, found, isFirst, isInit⟩ := entered
  obtain ⟨owner', kept, rest, longer⟩ := grows.kept position owner found
  refine ⟨owner', first, saved, kept, ?_, isInit⟩
  rw [← longer, List.head?_append, isFirst, Option.some_or]

/-- A graph that stays as it is has grown by nothing. -/
theorem refl (walk : Walk) (graph : Graph) : Grows walk graph graph :=
  ⟨fun _ owner found => ⟨owner, found, List.prefix_refl _⟩, fun _ member => member,
    fun _ owned => .inl owned⟩

/-- What a job has made in two stretches it has made altogether. -/
theorem trans (first : Grows walk graph middle) (second : Grows walk middle grown) :
    Grows walk graph grown where
  kept := by
    intro position owner found
    obtain ⟨owner', kept, longer⟩ := first.kept position owner found
    obtain ⟨owner'', keptAgain, evenLonger⟩ := second.kept position owner' kept
    exact ⟨owner'', keptAgain, longer.trans evenLonger⟩
  edges := fun _ member => second.edges (first.edges member)
  opened := by
    intro position owned
    rcases second.opened position owned with before | new
    · rcases first.opened position before with known | ⟨isRoot, entered⟩ | ⟨source, isSource, flows⟩
      · exact .inl known
      · exact .inr (.inl ⟨isRoot, second.enters entered⟩)
      · exact .inr (.inr ⟨source, isSource, second.edges flows⟩)
    · exact .inr new

end Grows

namespace Graph

variable {graph grown : Graph} {position : Position} {instruction : Instruction}

/-- Control that arrives at a position changes no block. -/
@[simp] theorem block?_arrive (source : Option Position) (target : Position) :
    (graph.arrive source target).block? position = graph.block? position := by
  rw [block?, blocks_arrive, block?]

/-- A graph with the blocks of a closed one stays closed under edges that lead where they
may. -/
theorem Closed.of_edges (closed : graph.Closed)
    (sameBlocks : ∀ position, grown.block? position = graph.block? position)
    (sameVisited : grown.visited = graph.visited)
    (edges : ∀ edge ∈ grown.edges, edge ∈ graph.edges ∨ graph.Owns edge.source ∧
      (edge.kind = .flow → graph.Owns edge.target) ∧ (edge.kind = .native → edge.target.vm = 0)) :
    grown.Closed := by
  have sameOwners : ∀ position, grown.Owns position ↔ graph.Owns position := fun position => by
    rw [Owns, Owns, sameBlocks]
  refine ⟨fun position => ?_, fun edge member => ?_, fun edge member isFlow => ?_,
    fun edge member isNative => ?_⟩
  · rw [sameVisited, sameOwners, closed.visited]
  · rw [sameOwners]
    exact (edges edge member).elim (closed.sources edge) (·.1)
  · rw [sameOwners]
    exact (edges edge member).elim (closed.targets edge · isFlow) (·.2.1 isFlow)
  · exact (edges edge member).elim (closed.natives edge · isNative) (·.2.2 isNative)

/-- Blocks that stay the same are kept. -/
theorem grows_of_sameBlocks (walk : Walk)
    (sameBlocks : ∀ position, grown.block? position = graph.block? position)
    (edges : graph.edges ⊆ grown.edges) : Grows walk graph grown where
  kept := fun position owner found =>
    ⟨owner, (sameBlocks position).trans found, List.prefix_refl _⟩
  edges := edges
  opened := fun position ⟨owner, found⟩ => .inl ⟨owner, (sameBlocks position).symm.trans found⟩

/-! An instruction is appended. -/

/-- Appending an instruction opens no block. -/
theorem owns_appendInstruction {start : Position}
    (grows : graph.appendInstruction start instruction = .ok grown) :
    grown.Owns position ↔ graph.Owns position := by
  obtain ⟨owner, found, -⟩ := appendInstruction_eq_ok grows
  rw [Owns, block?_appendInstruction found grows]
  split
  · rename_i same
    exact ⟨fun _ => ⟨owner, same ▸ found⟩, fun _ => ⟨_, rfl⟩⟩
  · rfl

/-- Appending an instruction keeps a graph closed. -/
theorem Closed.appendInstruction {start : Position} (closed : graph.Closed)
    (grows : graph.appendInstruction start instruction = .ok grown) : grown.Closed := by
  have sameOwners : ∀ position, grown.Owns position ↔ graph.Owns position :=
    fun _ => owns_appendInstruction grows
  obtain ⟨owner, found, rfl⟩ := appendInstruction_eq_ok grows
  refine ⟨fun position => ?_, fun edge member => ?_, fun edge member isFlow => ?_, closed.natives⟩
  · rw [sameOwners]
    exact closed.visited position
  · rw [sameOwners]
    exact closed.sources edge member
  · rw [sameOwners]
    exact closed.targets edge member isFlow

/-- Appending an instruction makes a block longer. -/
theorem grows_of_appendInstruction (walk : Walk) {start : Position}
    (grows : graph.appendInstruction start instruction = .ok grown) : Grows walk graph grown where
  kept := by
    intro position owner found
    obtain ⟨owner', found', -⟩ := appendInstruction_eq_ok grows
    rw [block?_appendInstruction found' grows]
    split
    · rename_i same
      subst same
      obtain rfl : owner = owner' := Option.some.inj (found.symm.trans found')
      exact ⟨_, rfl, List.prefix_append _ _⟩
    · exact ⟨owner, found, List.prefix_refl _⟩
  edges := by
    obtain ⟨owner, found, rfl⟩ := appendInstruction_eq_ok grows
    exact fun _ member => member
  opened := fun position owned => .inl ((owns_appendInstruction grows).mp owned)

end Graph

namespace GraphEdit

variable {walk : Walk} {graph claimed created grown : Graph} {position : Position}
  {instruction : Instruction}

/-- Opening a block adds it, and the edge to it if the job continues a block. -/
structure Opened (walk : Walk) (instruction : Instruction) (graph grown : Graph) : Prop where
  new : instruction.position ∉ graph.visited
  visited : ∀ position, position ∈ grown.visited ↔
    position = instruction.position ∨ position ∈ graph.visited
  edges : grown.edges = (graph.arrive walk.source instruction.position).edges
  block? : ∀ position, grown.block? position =
    if instruction.position = position then
      some { start := instruction.position, instructions := [instruction] }
    else graph.block? position

/-- A block is opened by claiming a free position, creating a block there and appending to it. -/
theorem opened_of_free
    (free : (graph.arrive walk.source instruction.position).claim instruction.position =
      (true, claimed))
    (creates : claimed.createBlock instruction.position = .ok created)
    (grows : created.appendInstruction instruction.position instruction = .ok grown) :
    Opened walk instruction graph grown := by
  obtain ⟨new, rfl⟩ := Graph.claim_eq_true free
  have opens : ∀ position, created.block? position =
      if instruction.position = position then some { start := instruction.position }
      else graph.block? position := by
    intro position
    rw [Graph.block?_createBlock creates]
    simp only [Graph.block?, Graph.blocks_arrive]
  have appends : ∀ position, grown.block? position =
      if instruction.position = position then
        some { start := instruction.position, instructions := [] ++ [instruction] }
      else created.block? position :=
    fun _ => Graph.block?_appendInstruction ((opens _).trans (if_pos rfl)) grows
  obtain ⟨-, visited, edges, -⟩ := Graph.createBlock_eq_ok creates
  obtain ⟨owner, found, rfl⟩ := Graph.appendInstruction_eq_ok grows
  refine ⟨by simpa using new, fun position => ?_, edges, fun position => ?_⟩
  · simp [visited]
  · rw [appends]
    split
    · rfl
    · rename_i other
      rw [opens, if_neg other]

namespace Opened

/-- Opening a block adds just its position to those of the blocks. -/
theorem owns (opened : Opened walk instruction graph grown) :
    grown.Owns position ↔ position = instruction.position ∨ graph.Owns position := by
  rw [Graph.Owns, opened.block?]
  split
  · rename_i same
    exact ⟨fun _ => .inl same.symm, fun _ => ⟨_, rfl⟩⟩
  · rename_i other
    exact ⟨.inr, (·.resolve_left (Ne.symm other))⟩

/-- A graph stays closed when a job opens a block, since it continues one that is there. -/
theorem closed (opened : Opened walk instruction graph grown) (closed : graph.Closed)
    (placed : walk.Placed graph) : grown.Closed := by
  have new : ∀ edge ∈ grown.edges, edge ∈ graph.edges ∨
      edge.kind = .flow ∧ edge.target = instruction.position ∧ some edge.source = walk.source :=
    fun edge member => Graph.mem_edges_arrive.mp (opened.edges ▸ member)
  refine ⟨fun position => ?_, fun edge member => ?_, fun edge member isFlow => ?_,
    fun edge member isNative => ?_⟩
  · rw [opened.visited, opened.owns, closed.visited]
  · rw [opened.owns]
    rcases new edge member with known | ⟨-, -, continues⟩
    · exact .inr (closed.sources edge known)
    · exact .inr (placed.continues edge.source continues.symm)
  · rw [opened.owns]
    rcases new edge member with known | ⟨-, arrives, -⟩
    · exact .inr (closed.targets edge known isFlow)
    · exact .inl arrives
  · rcases new edge member with known | ⟨isFlow, -, -⟩
    · exact closed.natives edge known isNative
    · exact absurd (isFlow.symm.trans isNative) (by simp)

/-- The block that a job opens is flowed to from the one that the job continues, or is the entry of
a root. -/
theorem grows (opened : Opened walk instruction graph grown) (closed : graph.Closed)
    (placed : walk.Placed graph) (recorded : walk.phase.Records instruction) :
    Grows walk graph grown where
  kept := by
    intro position owner found
    rw [opened.block?]
    split
    · rename_i same
      exact absurd ((closed.visited _).mpr ⟨owner, same ▸ found⟩) opened.new
    · exact ⟨owner, found, List.prefix_refl _⟩
  edges := by
    intro edge member
    rw [opened.edges]
    exact Graph.mem_edges_arrive.mpr (.inl member)
  opened := by
    intro position owned
    rcases opened.owns.mp owned with rfl | known
    · refine .inr ?_
      cases isSource : walk.source with
      | none =>
          obtain ⟨saved, isInit⟩ := recorded.isInit_iff.mpr (placed.seeks isSource)
          exact .inl ⟨rfl, _, instruction, saved, (opened.block? _).trans (if_pos rfl), rfl, isInit⟩
      | some source =>
          refine .inr ⟨source, rfl, ?_⟩
          rw [Graph.Flows, opened.edges]
          exact Graph.mem_edges_arrive.mpr (.inr ⟨rfl, rfl, isSource.symm⟩)
    · exact .inl known

end Opened

/-- An edit keeps a graph closed and ties what it adds to the job. -/
theorem grows (edit : GraphEdit walk graph grown) (closed : graph.Closed)
    (placed : walk.Placed graph) : grown.Closed ∧ Grows walk graph grown := by
  cases edit with
  | opens fresh recorded free creates grows =>
      have opened := opened_of_free free creates grows
      exact ⟨opened.closed closed placed, opened.grows closed placed recorded⟩
  | @revisits position skipped fresh taken =>
      obtain ⟨known, rfl⟩ := Graph.claim_eq_false taken
      rw [Graph.visited_arrive] at known
      have owned := (closed.visited position).mp known
      have sameBlocks : ∀ other, (graph.arrive walk.source position).block? other =
          graph.block? other := fun other => Graph.block?_arrive _ _
      refine ⟨closed.of_edges sameBlocks (Graph.visited_arrive _) fun edge member => ?_,
        Graph.grows_of_sameBlocks walk sameBlocks fun edge member =>
          Graph.mem_edges_arrive.mpr (.inl member)⟩
      rcases Graph.mem_edges_arrive.mp member with old | ⟨isFlow, arrives, continues⟩
      · exact .inl old
      · exact .inr ⟨placed.continues edge.source continues.symm, fun _ => arrives ▸ owned,
          fun isNative => absurd (isFlow.symm.trans isNative) (by simp)⟩
  | @stalls position claimed fault fresh free present =>
      -- A position that is not claimed owns no block.
      obtain ⟨new, same⟩ := Graph.claim_eq_true free
      refine absurd ((closed.visited position).mpr ?_) (by simpa using new)
      cases found : graph.block? position with
      | some owner => exact ⟨owner, found⟩
      | none =>
          have absent : grown.block? position = none := by
            rw [same, Graph.block?, Graph.blocks_arrive]
            exact found
          obtain ⟨created, creates⟩ := Graph.createBlock_of_absent absent
          cases creates.symm.trans present
  | appends own recorded grows =>
      exact ⟨closed.appendInstruction grows, Graph.grows_of_appendInstruction walk grows⟩
  | calls behind isExit grows =>
      exact ⟨closed.appendInstruction grows, Graph.grows_of_appendInstruction walk grows⟩
  | @leaves block instruction restored target behind isExit isSet =>
      refine ⟨closed.of_edges (Graph.block?_link _) (Graph.visited_link _) fun edge member => ?_,
        Graph.grows_of_sameBlocks walk (Graph.block?_link _) fun edge member =>
          Graph.mem_edges_link.mpr (.inl member)⟩
      rcases Graph.mem_edges_link.mp member with old | rfl
      · exact .inl old
      · obtain ⟨owner, found, -⟩ := behind
        exact .inr ⟨⟨owner, found⟩, by simp, fun _ => rfl⟩

end GraphEdit

/-- A queued job was requested for one of the entries, or continues a block that is there. -/
def Job.Placed (entries : List UInt64) (graph : Graph) (job : Job) : Prop :=
  (∃ entry ∈ entries, job = .entering entry none) ∨
    ∃ source, job.source = some source ∧ graph.Owns source

/-- A queued job keeps its place when the graph grows. -/
theorem Job.Placed.grows {entries : List UInt64} {job : Job} {walk : Walk} {graph grown : Graph}
    (placed : job.Placed entries graph) (grows : Grows walk graph grown) :
    job.Placed entries grown :=
  placed.imp_right fun ⟨source, isSource, owned⟩ => ⟨source, isSource, grows.owns owned⟩

/-- A running job keeps its place when the graph grows. -/
theorem Walk.Placed.grows {walk : Walk} {graph grown : Graph} (placed : walk.Placed graph)
    (grows : Grows walk graph grown) : walk.Placed grown :=
  ⟨fun source isSource => grows.owns (placed.continues source isSource), placed.seeks⟩

/-- A job that is put at the end of the queue behind a block is placed. -/
theorem Graph.EndsWith.placed {entries : List UInt64} {graph : Graph} {queue : List Job}
    {job : Job} {block : Position} {instruction : Instruction}
    (behind : graph.EndsWith block instruction) (continues : job.source = some block)
    (queued : ∀ job ∈ queue, job.Placed entries graph) :
    ∀ other ∈ queue ++ [job], other.Placed entries graph := by
  obtain ⟨owner, found, -⟩ := behind
  intro other member
  rcases List.mem_append.mp member with old | new
  · exact queued other old
  · obtain rfl := List.mem_singleton.mp new
    exact .inr ⟨block, continues, owner, found⟩

/-- The edits of a job keep the graph closed, tie what they add to the job, and queue only jobs
that continue a block that is there. -/
theorem Edits.grows {σ : Type} {walk : Walk} {state after : Recovery σ} {entries : List UInt64}
    (edits : Edits walk state after) (closed : state.graph.Closed)
    (placed : walk.Placed state.graph)
    (queued : ∀ job ∈ state.queue, job.Placed entries state.graph) :
    after.graph.Closed ∧ Grows walk state.graph after.graph ∧
      ∀ job ∈ after.queue, job.Placed entries after.graph := by
  induction edits with
  | refl => exact ⟨closed, .refl walk state.graph, queued⟩
  | tail _ edit inductionHypothesis =>
      obtain ⟨stillClosed, grown, stillQueued⟩ := inductionHypothesis
      cases edit with
      | graph edit =>
          obtain ⟨nextClosed, grows⟩ := edit.grows stillClosed (placed.grows grown)
          exact ⟨nextClosed, grown.trans grows,
            fun job member => (stillQueued job member).grows grows⟩
      | session | looksUp | stores | selects | locates | countsUnknown =>
          exact ⟨stillClosed, grown, stillQueued⟩
      | resumes snapshot behind continues =>
          exact ⟨stillClosed, grown, behind.placed rfl stillQueued⟩
      | reenters address behind isCall =>
          exact ⟨stillClosed, grown, behind.placed rfl stillQueued⟩

end VmRecovery.Flow

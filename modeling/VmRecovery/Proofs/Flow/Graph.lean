import VmRecovery.Flow.Graph

/-!
# Changes of the graph

What each change of the graph does to its blocks, its claimed positions and its edges.
-/

namespace VmRecovery.Flow.Graph

variable {graph created grown : Graph} {start position : Position} {instruction : Instruction}

/-! Opening a block. -/

/-- An empty block is created where there is none. Its position is claimed, and no edge is added. -/
theorem createBlock_eq_ok (creates : graph.createBlock start = .ok created) :
    graph.block? start = none ∧ created.visited = graph.visited.insert start ∧
      created.edges = graph.edges ∧ created.blocks = graph.blocks.insert start { start } := by
  unfold createBlock at creates
  split at creates
  · cases creates
  · rename_i absent
    obtain rfl := Except.ok.inj creates
    exact ⟨absent, rfl, rfl, rfl⟩

/-- Where there is no block one can be created. -/
theorem createBlock_of_absent (absent : graph.block? start = none) :
    ∃ created, graph.createBlock start = .ok created := by
  simp [createBlock, absent]

/-- Inserting a block is seen at its position only. -/
theorem block?_insert (blocks : Std.TreeMap Position Block) (block : Block) :
    (blocks.insert start block)[position]? =
      if start = position then some block else blocks[position]? := by
  simp [Std.TreeMap.getElem?_insert]

/-- After a block is created, it is empty and all other blocks are as before. -/
theorem block?_createBlock (creates : graph.createBlock start = .ok created) :
    created.block? position =
      if start = position then some { start } else graph.block? position := by
  obtain ⟨-, -, -, blocks⟩ := createBlock_eq_ok creates
  rw [block?, blocks, block?_insert]
  rfl

/-! Appending an instruction. -/

/-- An instruction is appended to a block that exists, and nothing else of the graph changes. -/
theorem appendInstruction_eq_ok (grows : graph.appendInstruction start instruction = .ok grown) :
    ∃ owner, graph.block? start = some owner ∧
      grown = { graph with
        blocks := graph.blocks.insert start
          { owner with instructions := owner.instructions ++ [instruction] } } := by
  unfold appendInstruction at grows
  split at grows
  · cases grows
  · rename_i owner found
    exact ⟨owner, found, (Except.ok.inj grows).symm⟩

/-- To a block that exists an instruction can be appended. -/
theorem appendInstruction_of_present {owner : Block} (found : graph.block? start = some owner) :
    ∃ grown, graph.appendInstruction start instruction = .ok grown := by
  simp [appendInstruction, found]

/-- After an instruction is appended, its block ends with it and all other blocks are as before. -/
theorem block?_appendInstruction {owner : Block} (found : graph.block? start = some owner)
    (grows : graph.appendInstruction start instruction = .ok grown) :
    grown.block? position =
      if start = position then
        some { owner with instructions := owner.instructions ++ [instruction] }
      else graph.block? position := by
  obtain ⟨other, otherFound, rfl⟩ := appendInstruction_eq_ok grows
  obtain rfl : owner = other := Option.some.inj (found.symm.trans otherFound)
  rw [block?, block?_insert]
  rfl

/-! Claiming a position. -/

/-- A claim is taken up where the position has not been claimed, and it is the one thing that
changes. -/
theorem claim_eq_true {claimed : Graph} (free : graph.claim position = (true, claimed)) :
    position ∉ graph.visited ∧ claimed = { graph with visited := position :: graph.visited } := by
  unfold claim at free
  split at free
  · cases free
  · rename_i new
    exact ⟨new, (Prod.ext_iff.mp free).2.symm⟩

/-- A claim is turned down where the position has been claimed, with an entry in the log. -/
theorem claim_eq_false {skipped : Graph} (taken : graph.claim position = (false, skipped)) :
    position ∈ graph.visited ∧ skipped = graph.record (.visitSkipped position) := by
  unfold claim at taken
  split at taken
  · rename_i known
    exact ⟨known, (Prod.ext_iff.mp taken).2.symm⟩
  · cases taken

/-! Adding an edge. -/

/-- An edge changes no block. -/
@[simp] theorem blocks_link (edge : Edge) : (graph.link edge).2.blocks = graph.blocks := by
  unfold link
  split <;> rfl

/-- An edge changes no block at any position. -/
@[simp] theorem block?_link (edge : Edge) (position : Position) :
    (graph.link edge).2.block? position = graph.block? position := by
  rw [block?, blocks_link, block?]

/-- An edge claims no position. -/
@[simp] theorem visited_link (edge : Edge) : (graph.link edge).2.visited = graph.visited := by
  unfold link
  split <;> rfl

/-- A new edge is put behind the earlier ones, and a known edge is not repeated. -/
theorem edges_link (edge : Edge) :
    (graph.link edge).2.edges =
      if edge ∈ graph.edges then graph.edges else graph.edges ++ [edge] := by
  unfold link
  split <;> rfl

/-- After two nodes are linked, their edge and the earlier ones are there. -/
theorem mem_edges_link {edge other : Edge} :
    other ∈ (graph.link edge).2.edges ↔ other ∈ graph.edges ∨ other = edge := by
  rw [edges_link]
  split
  · rename_i known
    constructor
    · exact Or.inl
    · rintro (member | rfl)
      · exact member
      · exact known
  · simp

/-! What is entered in the log. -/

/-- One change has been entered in the log, with the size of the graph right after it. -/
def Logs (graph grown : Graph) (change : Change) : Prop :=
  grown.log = graph.log ++ [⟨change, grown.blocks.size, grown.edges.length⟩]

/-- A created block is entered in the log. -/
theorem logs_of_createBlock (creates : graph.createBlock start = .ok created) :
    graph.Logs created (.blockCreated start) := by
  unfold createBlock at creates
  split at creates
  · cases creates
  · obtain rfl := Except.ok.inj creates
    rfl

/-- A claim that is turned down is entered in the log. -/
theorem logs_of_taken {skipped : Graph} (taken : graph.claim position = (false, skipped)) :
    graph.Logs skipped (.visitSkipped position) := by
  obtain ⟨-, rfl⟩ := claim_eq_false taken
  rfl

/-- An edge that is there already is not entered again. -/
theorem logs_link (edge : Edge) :
    (graph.link edge).2 = graph ∨ graph.Logs (graph.link edge).2 (.edgeLinked edge) := by
  unfold link
  split
  · exact .inl rfl
  · exact .inr rfl

/-! What a block ends with. -/

/-- A block ends with an instruction so far. -/
def EndsWith (graph : Graph) (block : Position) (instruction : Instruction) : Prop :=
  ∃ owner, graph.block? block = some owner ∧ owner.last? = some instruction

/-- A block ends with its instruction also after an edge is added. -/
theorem EndsWith.link {block : Position} (ends : graph.EndsWith block instruction) (edge : Edge) :
    (graph.link edge).2.EndsWith block instruction := by
  rwa [EndsWith, block?_link]

/-- A block ends with the instruction that was appended to it. -/
theorem endsWith_of_appendInstruction
    (grows : graph.appendInstruction start instruction = .ok grown) :
    grown.EndsWith start instruction := by
  obtain ⟨owner, found, -⟩ := appendInstruction_eq_ok grows
  exact ⟨_, (block?_appendInstruction found grows).trans (if_pos rfl), by simp [Block.last?]⟩

/-! Control arrives at a position. -/

/-- The graph after control was seen to arrive at a position from the block that a job
continues. -/
def arrive (graph : Graph) (source : Option Position) (position : Position) : Graph :=
  match source with
  | none => graph
  | some source => (graph.link { source, target := position, kind := .flow }).2

/-- Control that arrives at a position changes no block. -/
@[simp] theorem blocks_arrive (source : Option Position) :
    (graph.arrive source position).blocks = graph.blocks := by
  cases source <;> simp [arrive]

/-- Control that arrives at a position does not claim it. -/
@[simp] theorem visited_arrive (source : Option Position) :
    (graph.arrive source position).visited = graph.visited := by
  cases source <;> simp [arrive]

/-- Control that arrives at a position adds the edge from the block that the job continues, if there
is one. -/
theorem mem_edges_arrive {source : Option Position} {edge : Edge} :
    edge ∈ (graph.arrive source position).edges ↔
      edge ∈ graph.edges ∨
        edge.kind = .flow ∧ edge.target = position ∧ some edge.source = source := by
  cases source with
  | none => simp [arrive]
  | some source =>
      rw [arrive, mem_edges_link]
      refine or_congr_right ?_
      rcases edge with ⟨from_, to_, kind⟩
      simp only [Edge.mk.injEq, Option.some.injEq]
      constructor
      · exact fun ⟨sameSource, sameTarget, sameKind⟩ => ⟨sameKind, sameTarget, sameSource⟩
      · exact fun ⟨sameKind, sameTarget, sameSource⟩ => ⟨sameSource, sameTarget, sameKind⟩

end VmRecovery.Flow.Graph

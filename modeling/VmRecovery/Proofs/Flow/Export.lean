import Mathlib
import VmRecovery.Flow.Export
import VmRecovery.Proofs.Flow.Log
import VmRecovery.Proofs.Lists

/-!
# The exported graph

The export draws the blocks and then the edges, and gives the end of an edge a node where there is
none. What carries the proof is that the table of numbers and the list of nodes agree at any time
(`Drawing.Shows`): both are those of the positions mentioned so far, each at its first mention. A
new mention changes them in the same way (`Drawing.Shows.locate`), so an edge refers to the nodes
of its ends (`Drawing.Shows.connect`), and goes on to do so when more nodes are added.

`export_faithful` says what comes of it for every graph that can be built.
-/

namespace VmRecovery

/-- A position lies before another one. -/
def Position.Precedes (position other : Position) : Prop :=
  position.native < other.native ∨ position.native = other.native ∧ position.vm < other.vm

/-- The order of positions is the one that the blocks are listed in. -/
theorem Position.precedes_iff {position other : Position} :
    position.Precedes other ↔ compare position other = .lt := by
  have lexicographic : compare position other =
      (compare position.native other.native).then (compare position.vm other.vm) := rfl
  rw [lexicographic, Ordering.then_eq_lt, Std.compare_eq_lt, Std.compare_eq_lt,
    Std.compare_eq_iff_eq, Precedes]

namespace Flow

namespace Graph

/-- The ends of some edges in order of appearance. -/
def endsOf (edges : List Edge) : List Position :=
  edges.flatMap fun edge => [edge.source, edge.target]

/-- The node that stands for a position: the block there, or the position itself. -/
def nodeAt (graph : Graph) (position : Position) : Node :=
  match graph.block? position with
  | some block => .block block
  | none => .external position

variable {graph : Graph} {position : Position}

/-- Where there is a block the node is the block. -/
theorem nodeAt_of_block? {block : Block} (found : graph.block? position = some block) :
    graph.nodeAt position = .block block := by
  rw [nodeAt, found]

/-- Where there is no block the node is the bare position. -/
theorem nodeAt_of_not_owns (free : ¬graph.Owns position) :
    graph.nodeAt position = .external position := by
  cases found : graph.block? position with
  | none => rw [nodeAt, found]
  | some block => exact absurd ⟨block, found⟩ free

/-- The blocks are listed by the positions that own one. -/
theorem mem_keys_blocks : position ∈ graph.blocks.keys ↔ graph.Owns position := by
  rw [Std.TreeMap.mem_keys, Std.TreeMap.mem_iff_isSome_getElem?, Option.isSome_iff_exists]
  rfl

/-- The node for a position tells the position, since blocks know where they start. -/
theorem Logged.position_nodeAt (logged : graph.Logged) (position : Position) :
    (graph.nodeAt position).position = position := by
  cases found : graph.block? position with
  | none => rw [nodeAt, found, Node.position]
  | some block =>
      rw [nodeAt, found, Node.position]
      exact (logged.placed position block found).2

end Graph

/-! An export under way. -/

namespace Drawing

/-- The nodes of a drawing and their numbers are those of the listed positions, each at its first
mention. -/
structure Shows (graph : Graph) (listed : List Position) (drawing : Drawing) : Prop where
  nodes : drawing.nodes.toList = listed.eraseDups.map graph.nodeAt
  numbers : ∀ (position : Position) (number : Nat),
    drawing.numbers[position]? = some number ↔ listed.eraseDups[number]? = some position

/-- A drawn edge refers to the nodes of its ends. -/
def Draws (listed : List Position) (drawn : Nat × Nat × EdgeKind) (edge : Edge) : Prop :=
  listed.eraseDups[drawn.1]? = some edge.source ∧
    listed.eraseDups[drawn.2.1]? = some edge.target ∧ drawn.2.2 = edge.kind

variable {graph : Graph} {listed : List Position} {drawing : Drawing} {position : Position}

/-- More positions come behind the listed ones. -/
theorem Draws.append {drawn : Nat × Nat × EdgeKind} {edge : Edge} (draws : Draws listed drawn edge)
    (more : List Position) : Draws (listed ++ more) drawn edge :=
  ⟨getElem?_eraseDups_append draws.1 more, getElem?_eraseDups_append draws.2.1 more, draws.2.2⟩

/-- An empty drawing is of no position. -/
theorem shows_empty (graph : Graph) : Shows graph [] {} where
  nodes := rfl
  numbers := by simp

namespace Shows

/-- A drawing has a node for each position of the list, however often it is listed. -/
theorem size_nodes (shows : Shows graph listed drawing) :
    drawing.nodes.size = listed.eraseDups.length := by
  rw [← Array.length_toList, shows.nodes, List.length_map]

/-- No two numbers are for the same position. -/
theorem nodup (shows : Shows graph listed drawing) : listed.eraseDups.Nodup := by
  rw [List.nodup_iff_getElem?_ne_getElem?]
  intro first second before bound same
  obtain ⟨position, found⟩ := Option.isSome_iff_exists.mp
    (by simpa using bound : (listed.eraseDups[second]?).isSome)
  have isFirst := (shows.numbers position first).mpr (same.trans found)
  have isSecond := (shows.numbers position second).mpr found
  have : first = second := Option.some.inj (isFirst.symm.trans isSecond)
  omega

/-- The listed positions are those that have a number. -/
theorem mem_iff (shows : Shows graph listed drawing) :
    position ∈ listed ↔ ∃ number, drawing.numbers[position]? = some number := by
  rw [← List.mem_eraseDups, List.mem_iff_getElem?]
  exact exists_congr fun number => (shows.numbers position number).symm

/-- A position that is new gets the next number. -/
theorem add (shows : Shows graph listed drawing) (new : position ∉ listed) :
    Shows graph (listed ++ [position]) (drawing.add position (graph.nodeAt position)) where
  nodes := by
    rw [eraseDups_concat_of_not_mem new, List.map_append, ← shows.nodes]
    simp [Drawing.add]
  numbers other number := by
    rw [eraseDups_concat_of_not_mem new, getElem?_concat_eq_some_iff, ← shows.numbers,
      ← shows.size_nodes]
    simp only [Drawing.add, Std.TreeMap.getElem?_insert, Std.LawfulEqCmp.compare_eq_iff_eq]
    by_cases same : position = other
    · subst same
      have unnumbered : drawing.numbers[position]? ≠ some number := fun found =>
        new (shows.mem_iff.mpr ⟨number, found⟩)
      simp [unnumbered, eq_comm]
    · simp [same, Ne.symm same]

/-- The end of an edge has a node, and a number that tells it. -/
theorem locate (shows : Shows graph listed drawing)
    (owned : ∀ position, graph.Owns position → position ∈ listed) (position : Position) :
    Shows graph (listed ++ [position]) (drawing.locate position).2 ∧
      (listed ++ [position]).eraseDups[(drawing.locate position).1]? = some position ∧
      (drawing.locate position).2.edges = drawing.edges := by
  unfold Drawing.locate
  split
  · rename_i number known
    have mentioned : position ∈ listed := shows.mem_iff.mpr ⟨number, known⟩
    rw [eraseDups_concat_of_mem mentioned]
    refine ⟨⟨?_, ?_⟩, (shows.numbers position number).mp known, rfl⟩
    · rw [eraseDups_concat_of_mem mentioned, shows.nodes]
    · rw [eraseDups_concat_of_mem mentioned]
      exact shows.numbers
  · rename_i unknown
    have new : position ∉ listed := by
      rw [shows.mem_iff, unknown]
      simp
    have outside : graph.nodeAt position = .external position :=
      Graph.nodeAt_of_not_owns fun owns => new (owned position owns)
    refine ⟨outside ▸ shows.add new, ?_, rfl⟩
    rw [eraseDups_concat_of_not_mem new, getElem?_concat_eq_some_iff]
    exact .inr ⟨shows.size_nodes, rfl⟩

end Shows

/-- The blocks of a graph and some edges have been drawn. -/
structure DrawnUpTo (graph : Graph) (edges : List Edge) (drawing : Drawing) : Prop where
  shows : Shows graph (graph.blocks.keys ++ Graph.endsOf edges) drawing
  draws : List.Forall₂ (Draws (graph.blocks.keys ++ Graph.endsOf edges)) drawing.edges.toList edges

namespace DrawnUpTo

variable {edges : List Edge}

/-- An edge is drawn between the nodes of its ends, and the edges before it are kept. -/
theorem connect (drawnUpTo : DrawnUpTo graph edges drawing) (edge : Edge) :
    DrawnUpTo graph (edges ++ [edge]) (drawing.connect edge) := by
  have owned : ∀ position, graph.Owns position →
      position ∈ graph.blocks.keys ++ Graph.endsOf edges := fun position owns =>
    List.mem_append_left _ (Graph.mem_keys_blocks.mpr owns)
  obtain ⟨atSource, isSource, sourceEdges⟩ := drawnUpTo.shows.locate owned edge.source
  obtain ⟨atTarget, isTarget, targetEdges⟩ :=
    atSource.locate (fun _ owns => List.mem_append_left _ (owned _ owns)) edge.target
  have listed : graph.blocks.keys ++ Graph.endsOf (edges ++ [edge]) =
      graph.blocks.keys ++ Graph.endsOf edges ++ [edge.source] ++ [edge.target] := by
    simp [Graph.endsOf]
  constructor
  · rw [listed]
    exact ⟨atTarget.nodes, atTarget.numbers⟩
  · have before : List.Forall₂ (Draws (graph.blocks.keys ++ Graph.endsOf (edges ++ [edge])))
        drawing.edges.toList edges :=
      drawnUpTo.draws.imp fun _ _ draws => by
        rw [listed]
        exact (draws.append _).append _
    have last : Draws (graph.blocks.keys ++ Graph.endsOf (edges ++ [edge]))
        ((drawing.locate edge.source).1,
          ((drawing.locate edge.source).2.locate edge.target).1, edge.kind) edge := by
      rw [listed]
      exact ⟨getElem?_eraseDups_append isSource _, isTarget, rfl⟩
    have drawn : (drawing.connect edge).edges.toList = drawing.edges.toList ++
        [((drawing.locate edge.source).1,
          ((drawing.locate edge.source).2.locate edge.target).1, edge.kind)] := by
      rw [← sourceEdges, ← targetEdges]
      exact Array.toList_push
    rw [drawn]
    exact List.rel_append before (.cons last .nil)

/-- Edges are drawn one after the other behind those drawn before. -/
theorem foldl_connect (drawnUpTo : DrawnUpTo graph edges drawing) (later : List Edge) :
    DrawnUpTo graph (edges ++ later) (later.foldl Drawing.connect drawing) := by
  induction later generalizing edges drawing with
  | nil => simpa using drawnUpTo
  | cons edge later inductionHypothesis =>
      simpa using inductionHypothesis (drawnUpTo.connect edge)

end DrawnUpTo

/-- The blocks are drawn one by one. -/
theorem Shows.foldl_add (shows : Shows graph listed drawing)
    (entries : List (Position × Block))
    (found : ∀ entry ∈ entries, graph.block? entry.1 = some entry.2)
    (distinct : (listed ++ entries.map Prod.fst).Nodup) :
    Shows graph (listed ++ entries.map Prod.fst)
      (entries.foldl (fun drawing entry => drawing.add entry.1 (.block entry.2)) drawing) := by
  induction entries generalizing listed drawing with
  | nil => simpa using shows
  | cons entry entries inductionHypothesis =>
      have new : entry.1 ∉ listed := fun member =>
        (List.nodup_append.mp distinct).2.2 _ member _ (by simp) rfl
      have added := shows.add new
      rw [Graph.nodeAt_of_block? (found entry List.mem_cons_self)] at added
      simpa using inductionHypothesis added (fun other member => found other (.tail _ member))
        (by simpa using distinct)

/-- Drawing blocks draws no edge. -/
theorem foldl_add_edges (drawing : Drawing) (entries : List (Position × Block)) :
    (entries.foldl (fun drawing entry => drawing.add entry.1 (.block entry.2)) drawing).edges =
      drawing.edges := by
  induction entries generalizing drawing with
  | nil => rfl
  | cons entry entries inductionHypothesis => exact inductionHypothesis _

/-- With the blocks drawn, no edge has been drawn yet. -/
theorem drawnUpTo_drawBlocks (graph : Graph) : DrawnUpTo graph [] graph.drawBlocks := by
  have drawn : graph.drawBlocks = graph.blocks.toList.foldl
      (fun drawing entry => drawing.add entry.1 (.block entry.2)) {} :=
    Std.TreeMap.foldl_eq_foldl_toList
  have blocks := (shows_empty graph).foldl_add graph.blocks.toList
    (fun entry member => Std.TreeMap.mem_toList_iff_getElem?_eq_some.mp member)
    (by simpa using Std.TreeMap.nodup_keys)
  constructor
  · rw [drawn]
    simpa [Graph.endsOf] using blocks
  · rw [drawn, foldl_add_edges]
    exact .nil

end Drawing

namespace Graph

variable {graph : Graph}

/-- The ends of edges that own no block, each at its first appearance. -/
def outside (graph : Graph) : List Position :=
  ((endsOf graph.edges).filter fun position => (graph.block? position).isNone).eraseDups

/-- The positions that a complete drawing is of. -/
theorem eraseDups_drawn (graph : Graph) :
    (graph.blocks.keys ++ endsOf graph.edges).eraseDups = graph.blocks.keys ++ graph.outside := by
  have unowned : ∀ position,
      (!graph.blocks.keys.elem position) = (graph.block? position).isNone := by
    intro position
    rw [Bool.eq_iff_iff, Bool.not_eq_true', ← Bool.not_eq_true, List.elem_iff, mem_keys_blocks,
      Option.isNone_iff_eq_none, Option.eq_none_iff_forall_ne_some, Owns, not_exists]
  rw [List.eraseDups_append, eraseDups_of_nodup Std.TreeMap.nodup_keys, outside, List.removeAll]
  simp only [unowned]

/-- All of a graph has been drawn when it is exported. -/
theorem exists_drawing (graph : Graph) :
    ∃ drawing, Drawing.DrawnUpTo graph graph.edges drawing ∧
      graph.toExport = { nodes := drawing.nodes.toList, edges := drawing.edges.toList } :=
  ⟨_, (Drawing.drawnUpTo_drawBlocks graph).foldl_connect graph.edges, rfl⟩

/-- The exported nodes are the blocks in their order and then the positions outside. -/
theorem nodes_toExport (graph : Graph) :
    graph.toExport.nodes = (graph.blocks.keys ++ graph.outside).map graph.nodeAt := by
  obtain ⟨drawing, drawn, isExport⟩ := graph.exists_drawing
  rw [isExport, drawn.shows.nodes, eraseDups_drawn]

/-- Every exported position has one node. -/
theorem nodup_exported (graph : Graph) : (graph.blocks.keys ++ graph.outside).Nodup := by
  obtain ⟨drawing, drawn, -⟩ := graph.exists_drawing
  rw [← eraseDups_drawn]
  exact drawn.shows.nodup

/-- The exported positions are those of the blocks and the ends of the edges. -/
theorem mem_exported {position : Position} :
    position ∈ graph.blocks.keys ++ graph.outside ↔
      graph.Owns position ∨
        ∃ edge ∈ graph.edges, edge.source = position ∨ edge.target = position := by
  rw [← eraseDups_drawn, List.mem_eraseDups, List.mem_append, mem_keys_blocks]
  simp [endsOf, eq_comm]

/-- Edge by edge, the numbers that are exported refer to the nodes of its ends. -/
theorem edges_toExport (graph : Graph) :
    List.Forall₂
      (fun drawn edge =>
        graph.toExport.nodes[drawn.1]? = some (graph.nodeAt edge.source) ∧
          graph.toExport.nodes[drawn.2.1]? = some (graph.nodeAt edge.target) ∧
          drawn.2.2 = edge.kind)
      graph.toExport.edges graph.edges := by
  obtain ⟨drawing, drawn, isExport⟩ := graph.exists_drawing
  rw [isExport]
  refine drawn.draws.imp fun number edge draws => ?_
  dsimp only
  rw [drawn.shows.nodes, List.getElem?_map, List.getElem?_map, draws.1, draws.2.1]
  exact ⟨rfl, rfl, draws.2.2⟩

/-- Whatever a new graph is asked, its export has one node for each position that starts a block or
is an end of an edge, and no other node: first the blocks in ascending order of their positions,
then the ends of edges without a block in order of their first appearance. The node of a position
is the block there, or the position itself if it owns none. The edges are the recorded ones in
their order, each between the nodes of its ends. -/
theorem export_faithful (requests : List Request) :
    let graph := answerAll {} requests
    let drawn := graph.toExport
    (drawn.nodes.map Node.position).Nodup ∧
      (∀ position, position ∈ drawn.nodes.map Node.position ↔
        graph.Owns position ∨
          ∃ edge ∈ graph.edges, edge.source = position ∨ edge.target = position) ∧
      (∃ starts, drawn.nodes.map Node.position = starts ++ graph.outside ∧
        starts.Pairwise Position.Precedes ∧ ∀ position, position ∈ starts ↔ graph.Owns position) ∧
      (∀ node ∈ drawn.nodes, node = graph.nodeAt node.position) ∧
      List.Forall₂
        (fun number edge =>
          drawn.nodes[number.1]? = some (graph.nodeAt edge.source) ∧
            drawn.nodes[number.2.1]? = some (graph.nodeAt edge.target) ∧
            number.2.2 = edge.kind)
        drawn.edges graph.edges := by
  intro graph drawn
  have logged : graph.Logged := logged_empty.answerAll requests
  have positions : drawn.nodes.map Node.position = graph.blocks.keys ++ graph.outside := by
    rw [graph.nodes_toExport, List.map_map]
    exact List.map_id'' logged.position_nodeAt _
  refine ⟨?_, ?_, ⟨graph.blocks.keys, positions, ?_, fun _ => mem_keys_blocks⟩, ?_, ?_⟩
  · rw [positions]
    exact graph.nodup_exported
  · intro position
    rw [positions]
    exact mem_exported
  · exact Std.TreeMap.ordered_keys.imp Position.precedes_iff.mpr
  · intro node member
    rw [graph.nodes_toExport, List.mem_map] at member
    obtain ⟨position, -, rfl⟩ := member
    rw [logged.position_nodeAt]
  · exact graph.edges_toExport

/-- A block with an edge to itself, and with one that is recorded first and leads out to a position
without a block. -/
theorem export_of_loop :
    let home : Position := ⟨0x2000, 0x100⟩
    let away := Position.ofNative 0x7000
    let requests := [.create home, .link ⟨home, away, .native⟩, .link ⟨home, home, .flow⟩]
    let graph := answerAll {} requests
    graph.toExport =
        { nodes := [.block { start := home }, .external away]
          edges := [(0, 1, .native), (0, 0, .flow)] } ∧
      away ∈ graph.toExport.nodes.map Node.position ∧
      Node.external away = graph.nodeAt away := by
  intro home away requests graph
  obtain ⟨-, mentioned, -, nodes, -⟩ := export_faithful requests
  have leaves : ⟨home, away, .native⟩ ∈ graph.edges := by decide
  exact ⟨by rfl, (mentioned away).mpr (.inr ⟨_, leaves, .inr rfl⟩),
    nodes (.external away) (by decide)⟩

end Graph

end Flow

end VmRecovery

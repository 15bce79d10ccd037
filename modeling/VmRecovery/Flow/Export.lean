import VmRecovery.Flow.Graph

/-!
# Exporting the graph

The exported graph numbers its nodes: first the blocks in the order of their positions, then
every further end of an edge in the order in which the edges mention it. Its text form is a
directed graph in the DOT language.
-/

namespace VmRecovery.Flow

/-- A node of the exported graph. -/
inductive Node where
  | block (block : Block)
  /-- An end of an edge that owns no block. -/
  | external (position : Position)
  deriving DecidableEq, Repr, Inhabited

namespace Node

/-- The position that a node stands for. -/
def position : Node → Position
  | .block owner => owner.start
  | .external position => position

/-- The label of a node. -/
def text : Node → String
  | .block owner => owner.text
  | .external position =>
      if position.isNative then "native " ++ hex position.native
      else "unresolved " ++ position.text

end Node

/-- A graph whose edges refer to its nodes by their numbers. -/
structure Export where
  nodes : List Node
  edges : List (Nat × Nat × EdgeKind)
  deriving DecidableEq, Repr, Inhabited

/-- An export under way. The numbers of the positions that have a node are kept in a table, where
an edge finds the nodes of its ends. -/
structure Drawing where
  nodes : Array Node := #[]
  numbers : Std.TreeMap Position Nat := {}
  edges : Array (Nat × Nat × EdgeKind) := #[]
  deriving Inhabited

namespace Drawing

/-- Adds the node of a position, which gets the next number. -/
def add (drawing : Drawing) (position : Position) (node : Node) : Drawing :=
  { drawing with
    nodes := drawing.nodes.push node
    numbers := drawing.numbers.insert position drawing.nodes.size }

/-- The number of a position. One without a node owns no block, and its node is added. -/
def locate (drawing : Drawing) (position : Position) : Nat × Drawing :=
  match drawing.numbers[position]? with
  | some number => (number, drawing)
  | none => (drawing.nodes.size, drawing.add position (.external position))

/-- Adds an edge between the nodes of its ends. -/
def connect (drawing : Drawing) (edge : Edge) : Drawing :=
  let (source, drawing) := drawing.locate edge.source
  let (target, drawing) := drawing.locate edge.target
  { drawing with edges := drawing.edges.push (source, target, edge.kind) }

end Drawing

namespace Graph

/-- The blocks in the order of their positions, drawn without any edge. -/
def drawBlocks (graph : Graph) : Drawing :=
  graph.blocks.foldl (fun drawing start block => drawing.add start (.block block)) {}

/-- The exported graph. -/
def toExport (graph : Graph) : Export :=
  let drawing := graph.edges.foldl Drawing.connect graph.drawBlocks
  { nodes := drawing.nodes.toList, edges := drawing.edges.toList }

end Graph

/-- A character of a label between quotation marks. A line break becomes a left-justified line
of the label. -/
def escapeLabelChar : Char → List Char
  | '"' => ['\\', '"']
  | '\\' => ['\\', '\\']
  | '\n' => ['\\', 'l']
  | c => [c]

/-- A label between quotation marks. -/
def quoteLabel (label : String) : String :=
  "\"" ++ String.ofList (label.toList.flatMap escapeLabelChar) ++ "\""

namespace Export

/-- The lines that declare the nodes. -/
def nodeLines (graph : Export) : List String :=
  graph.nodes.zipIdx.map fun (node, number) =>
    "    " ++ toString number ++ " [ label = " ++ quoteLabel node.text ++ " ]\n"

/-- The lines that declare the edges. -/
def edgeLines (graph : Export) : List String :=
  graph.edges.map fun (source, target, _) =>
    "    " ++ toString source ++ " -> " ++ toString target ++ " [ ]\n"

/-- The graph in the DOT language. -/
def dot (graph : Export) : String :=
  "digraph \x7b\n" ++ String.join graph.nodeLines ++ String.join graph.edgeLines ++ "\x7d\n"

end Export

end VmRecovery.Flow

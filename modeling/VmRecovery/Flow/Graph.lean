import VmRecovery.Fault
import VmRecovery.Flow.Block
import Std.Data.TreeMap

/-!
# The recovered control flow graph

Every position owns at most one block. Edges lead from block to block, or out of the virtual
machine, and may be recorded before the block they lead to exists. Each change is entered in a
log together with the size of the graph right after it.
-/

namespace VmRecovery.Flow

/-- How control leaves a block. -/
inductive EdgeKind where
  /-- It stays inside the virtual machine. -/
  | flow
  /-- It goes on in native code. -/
  | native
  deriving DecidableEq, Repr, Inhabited

namespace EdgeKind

/-- The word for a kind of edge. -/
def text : EdgeKind → String
  | flow => "flow"
  | native => "native"

/-- The capitalised word for a kind of edge. -/
def name : EdgeKind → String
  | flow => "Flow"
  | native => "Native"

end EdgeKind

/-- A transfer of control from a block. -/
structure Edge where
  source : Position
  target : Position
  kind : EdgeKind
  deriving DecidableEq, Repr, Inhabited

/-- A change of the graph. -/
inductive Change where
  | blockCreated (start : Position)
  | edgeLinked (edge : Edge)
  /-- A position was claimed a second time; nothing else changed. -/
  | visitSkipped (position : Position)
  deriving DecidableEq, Repr, Inhabited

/-- The form in which a change is reported. -/
def Change.text : Change → String
  | blockCreated start => "CreateBlock \x7b start: " ++ start.fieldText ++ " \x7d"
  | edgeLinked edge =>
      "LinkEdge \x7b from: " ++ edge.source.fieldText ++ ", to: " ++ edge.target.fieldText ++
        ", kind: " ++ edge.kind.name ++ " \x7d"
  | visitSkipped position => "SkipVisited \x7b address: " ++ position.fieldText ++ " \x7d"

/-- A change with the number of blocks and edges right after it. -/
structure LogEntry where
  change : Change
  blocks : Nat
  edges : Nat
  deriving DecidableEq, Repr, Inhabited

/-- How often each kind of change occurs in a log. -/
structure ChangeCounts where
  created : Nat
  linked : Nat
  skipped : Nat
  deriving DecidableEq, Repr, Inhabited

namespace Change

/-- Whether a block was opened. -/
def isCreation : Change → Bool
  | blockCreated _ => true
  | _ => false

/-- Whether an edge was added. -/
def isLink : Change → Bool
  | edgeLinked _ => true
  | _ => false

/-- Whether a repeated claim was turned down. -/
def isSkip : Change → Bool
  | visitSkipped _ => true
  | _ => false

end Change

/-- Counts the changes of each kind. -/
def ChangeCounts.ofLog (log : List LogEntry) : ChangeCounts :=
  { created := log.countP fun entry => entry.change.isCreation
    linked := log.countP fun entry => entry.change.isLink
    skipped := log.countP fun entry => entry.change.isSkip }

/-- A graph of recovered code. -/
structure Graph where
  blocks : Std.TreeMap Position Block := {}
  /-- The positions that have been claimed. -/
  visited : List Position := []
  /-- The edges in the order in which they were recorded. -/
  edges : List Edge := []
  log : List LogEntry := []
  deriving Inhabited

namespace Graph

/-- Enters a change that has just been made. -/
def record (graph : Graph) (change : Change) : Graph :=
  { graph with
    log := graph.log ++ [⟨change, graph.blocks.size, graph.edges.length⟩] }

/-- Whether a position has been claimed. -/
def isVisited (graph : Graph) (position : Position) : Bool :=
  graph.visited.contains position

/-- Claims a position. The answer tells whether it was free. -/
def claim (graph : Graph) (position : Position) : Bool × Graph :=
  if position ∈ graph.visited then (false, graph.record (.visitSkipped position))
  else (true, { graph with visited := position :: graph.visited })

/-- The block at a position. -/
def block? (graph : Graph) (start : Position) : Option Block :=
  graph.blocks[start]?

/-- Opens an empty block, which claims its position. -/
def createBlock (graph : Graph) (start : Position) : Except Fault Graph :=
  match graph.block? start with
  | some _ => .error (.blockPresent start)
  | none =>
      .ok
        ({ graph with
            visited := graph.visited.insert start
            blocks := graph.blocks.insert start { start } }.record
          (.blockCreated start))

/-- Appends an instruction to a block. -/
def appendInstruction (graph : Graph) (start : Position) (instruction : Instruction) :
    Except Fault Graph :=
  match graph.block? start with
  | none => .error (.blockMissing start)
  | some block =>
      let grown := { block with instructions := block.instructions ++ [instruction] }
      .ok { graph with blocks := graph.blocks.insert start grown }

/-- Adds an edge unless it is there already. The answer tells whether it was new. -/
def link (graph : Graph) (edge : Edge) : Bool × Graph :=
  if edge ∈ graph.edges then (false, graph)
  else (true, { graph with edges := graph.edges ++ [edge] }.record (.edgeLinked edge))

/-- The blocks in the order of their positions. -/
def blockList (graph : Graph) : List Block :=
  graph.blocks.values

/-- The edges that lead to a position. -/
def edgesTo (graph : Graph) (position : Position) : List Edge :=
  graph.edges.filter fun edge => edge.target == position

/-- The edges that lead away from a position. -/
def edgesFrom (graph : Graph) (position : Position) : List Edge :=
  graph.edges.filter fun edge => edge.source == position

/-- How often each kind of change has been made. -/
def changeCounts (graph : Graph) : ChangeCounts :=
  .ofLog graph.log

end Graph

end VmRecovery.Flow

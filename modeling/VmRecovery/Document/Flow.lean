import VmRecovery.Document.Instruction
import VmRecovery.Flow.Export
import VmRecovery.Flow.Job
import VmRecovery.Flow.Report

/-!
# Documents of the recovered graph and of reports
-/

namespace VmRecovery.Flow

/-- The JSON form of a block. -/
def Block.toJson (block : Block) : Json :=
  .record
    [("start", block.start.toJson),
      ("instructions", .array (block.instructions.map Instruction.toJson))]

/-- Reads a block. -/
def Block.ofJson? (json : Json) : Option Block := do
  match ← json.record? ["start", "instructions"] with
  | [start, instructions] =>
      some
        { start := ← Json.required? Position.ofJson? start
          instructions := ← Json.required? (Json.list? Instruction.ofJson?) instructions }
  | _ => none

/-- The JSON form of a kind of edge. -/
def EdgeKind.toJson (kind : EdgeKind) : Json :=
  .string kind.name

/-- Reads a kind of edge. -/
def EdgeKind.ofJson? (json : Json) : Option EdgeKind :=
  json.enumeration? [("Flow", .flow), ("Native", .native)]

/-- The JSON form of an edge. -/
def Edge.toJson (edge : Edge) : Json :=
  .record
    [("from", edge.source.toJson), ("to", edge.target.toJson), ("kind", edge.kind.toJson)]

/-- Reads an edge. -/
def Edge.ofJson? (json : Json) : Option Edge := do
  match ← json.record? ["from", "to", "kind"] with
  | [source, target, kind] =>
      some
        { source := ← Json.required? Position.ofJson? source
          target := ← Json.required? Position.ofJson? target
          kind := ← Json.required? EdgeKind.ofJson? kind }
  | _ => none

/-- The JSON form of a change. -/
def Change.toJson : Change → Json
  | blockCreated start => .tagged "CreateBlock" (.record [("start", start.toJson)])
  | edgeLinked edge => .tagged "LinkEdge" edge.toJson
  | visitSkipped position => .tagged "SkipVisited" (.record [("address", position.toJson)])

/-- Reads a change that concerns a position. -/
def Change.ofField? (name : String) (change : Position → Change) (content : Json) :
    Option Change := do
  match ← content.record? [name] with
  | [position] => return change (← Json.required? Position.ofJson? position)
  | _ => none

/-- Reads a change. -/
def Change.ofJson? (json : Json) : Option Change := do
  match ← json.choice? with
  | ("CreateBlock", some content) => ofField? "start" .blockCreated content
  | ("LinkEdge", some content) => return .edgeLinked (← Edge.ofJson? content)
  | ("SkipVisited", some content) => ofField? "address" .visitSkipped content
  | _ => none

/-- The JSON form of a log entry. -/
def LogEntry.toJson (entry : LogEntry) : Json :=
  .record
    [("kind", entry.change.toJson), ("blocks", .nat entry.blocks), ("edges", .nat entry.edges)]

/-- Reads a log entry. -/
def LogEntry.ofJson? (json : Json) : Option LogEntry := do
  match ← json.record? ["kind", "blocks", "edges"] with
  | [kind, blocks, edges] =>
      some
        { change := ← Json.required? Change.ofJson? kind
          blocks := ← Json.required? Json.nat? blocks
          edges := ← Json.required? Json.nat? edges }
  | _ => none

/-- The JSON form of a graph: its blocks in order, its edges and its log. -/
def Graph.toJson (graph : Graph) : Json :=
  .record
    [("blocks", .array (graph.blockList.map Block.toJson)),
      ("edges", .array (graph.edges.map Edge.toJson)),
      ("trace", .array (graph.log.map LogEntry.toJson))]

/-- The JSON form of an exported node: its kind, its position and its label. -/
def Node.toJson (node : Node) : Json :=
  let kind :=
    match node with
    | .block _ => "block"
    | .external _ => "external"
  .array [.string kind, node.position.toJson, .string node.text]

/-- The JSON form of an exported graph. -/
def Export.toJson (graph : Export) : Json :=
  .record
    [("nodes", .array (graph.nodes.map Node.toJson)),
      ("edges",
        .array (graph.edges.map fun (source, target, kind) =>
          .array [.nat source, .nat target, .string kind.text]))]

/-- The JSON form of a kind of job. -/
def JobKind.toJson (kind : JobKind) : Json :=
  .string kind.name

/-- Reads a kind of job. -/
def JobKind.ofJson? (json : Json) : Option JobKind :=
  json.enumeration? [("Entry", .entry), ("JmpContinuation", .continuation)]

/-- The names of the counters of a report. -/
def Report.keys : List String :=
  ["tasks_run", "tasks_finished", "tasks_failed", "tasks_pending", "unknown_handlers",
    "revisited_blocks", "cache_hits", "cache_misses"]

/-- The counters of a report in order. -/
def Report.counters (report : Report) : List Nat :=
  [report.tasksRun, report.tasksFinished, report.tasksFailed, report.tasksPending,
    report.unknownHandlers, report.revisitedBlocks, report.cacheHits, report.cacheMisses]

/-- The report with the given counters. -/
def Report.ofCounters? : List Nat → Option Report
  | [tasksRun, tasksFinished, tasksFailed, tasksPending, unknownHandlers, revisitedBlocks,
      cacheHits, cacheMisses] =>
      some
        { tasksRun, tasksFinished, tasksFailed, tasksPending, unknownHandlers, revisitedBlocks
          cacheHits, cacheMisses }
  | _ => none

/-- The JSON form of a report. -/
def Report.toJson (report : Report) : Json :=
  .record (keys.zip (report.counters.map .nat))

/-- Reads a report. -/
def Report.ofJson? (json : Json) : Option Report := do
  ofCounters? (← (← json.record? keys).mapM (Json.required? Json.nat?))

end VmRecovery.Flow

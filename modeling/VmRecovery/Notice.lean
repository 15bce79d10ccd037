import VmRecovery.Fault
import VmRecovery.Flow.Graph
import VmRecovery.Flow.Job

/-!
# Notices

What a recovery reports while it runs. A notice is the cause of the report; its level, its
wording and its fields are functions of the cause.
-/

namespace VmRecovery

open VmRecovery.Flow

/-- How important a notice is. -/
inductive Level where
  | trace
  | debug
  | info
  | warn
  deriving DecidableEq, Repr, Inhabited

/-- The name of a level. -/
def Level.name : Level → String
  | trace => "TRACE"
  | debug => "DEBUG"
  | info => "INFO"
  | warn => "WARN"

/-- The value of a field of a notice. -/
inductive Detail where
  | count (value : Nat)
  | flag (value : Bool)
  | text (value : String)
  deriving DecidableEq, Repr, Inhabited

/-- The totals reported at the end of a recovery. -/
structure Totals where
  blocks : Nat
  edges : Nat
  revisited : Nat
  tasks : Nat
  failed : Nat
  unknown : Nat
  deriving DecidableEq, Repr, Inhabited

/-- The causes of notices. -/
inductive Notice where
  /-- Bytes that are no instruction were decoded. -/
  | invalidInstruction (address : UInt64)
  /-- The groups were renewed. -/
  | regrouped (addresses groups : Nat)
  /-- A trace was recorded. -/
  | walkStarted (start : UInt64) (steps : Nat)
  /-- A matcher did not find its shape. -/
  | refused (matcher : String)
  /-- A matcher found a register pair in conflict with the selection. -/
  | conflicted (matcher : String) (derived : RegisterPair)
  /-- A matcher accepted. -/
  | classified (handler : UInt64) (matcher : String)
  /-- It was found out whether an exit call comes back. -/
  | probed (address : UInt64) (found : Bool)
  /-- The graph was changed. -/
  | changed (change : Change)
  /-- The limit of jobs was reached. -/
  | limitReached (limit pending : Nat)
  | jobStarted (job : Job) (queued : Nat)
  | jobFinished
  | jobFailed (fault : Fault)
  | completed (totals : Totals)
  | notAnEntry (start : UInt64)
  | entryFound (start saveArea : UInt64)
  | cacheHit (start : UInt64) (handler : String)
  | cacheConflict (start : UInt64) (handler : String)
  /-- A handler has no effect on the virtual machine. -/
  | noEffect (start : UInt64)
  /-- An occurrence lacks what the operand of its pattern is read from. -/
  | anchorMissing (start : UInt64) (handler : String)
  | unknownHandler (position : Position) (steps : Nat)
  | alreadyVisited (position : Position)
  /-- An instruction was recovered. -/
  | recovered (instruction : Instruction)
  | selectionKept (fault : Fault)
  | stackUnknown (block : Position)
  | branchNotSteered (register : String)
  | branchForked (block : Position) (target : UInt64)
  | branchUnresolved (block : Position) (targets : Nat)
  | exitUnresolved (block : Position) (targets : Nat)
  | exitThroughCall (target reentry : UInt64)
  | jobQueued (job : Job)
  deriving Inhabited

namespace Notice

/-- The level of a notice. -/
def level : Notice → Level
  | refused _ => .trace
  | conflicted _ _ => .trace
  | changed _ => .trace
  | notAnEntry _ => .trace
  | jobStarted _ _ => .info
  | jobFinished => .info
  | completed _ => .info
  | exitThroughCall _ _ => .info
  | limitReached _ _ => .warn
  | jobFailed _ => .warn
  | unknownHandler _ _ => .warn
  | selectionKept _ => .warn
  | stackUnknown _ => .warn
  | branchNotSteered _ => .warn
  | branchUnresolved _ _ => .warn
  | _ => .debug

/-- The wording of a notice. -/
def message : Notice → String
  | invalidInstruction _ => "decoder: invalid instruction"
  | regrouped _ _ => "trace flow graph merged"
  | walkStarted _ _ => "walk started"
  | refused _ => "rejected"
  | conflicted _ _ => "register pair conflicts with selection"
  | classified _ _ => "handler classified"
  | probed _ _ => "vm entry probe"
  | changed _ => "flow graph operation"
  | limitReached _ _ => "task limit reached, stopping"
  | jobStarted _ _ => "task started"
  | jobFinished => "task finished"
  | jobFailed _ => "task failed"
  | completed _ => "flow build complete"
  | notAnEntry _ => "not a vm entry"
  | entryFound _ _ => "vm entry found"
  | cacheHit _ _ => "cache hit"
  | cacheConflict _ _ => "cached pattern conflicts with selected registers"
  | noEffect _ => "no vm effect"
  | anchorMissing _ _ => "pattern has no anchor in this occurrence"
  | unknownHandler _ _ => "unknown handler"
  | alreadyVisited _ => "already visited"
  | recovered instruction => instruction.text
  | selectionKept _ => "keeping selected vm registers"
  | stackUnknown _ => "two-way branch without a vm stack register"
  | branchNotSteered _ => "cannot steer branch"
  | branchForked _ _ => "forking vm branch"
  | branchUnresolved _ _ => "unresolved vm branch"
  | exitUnresolved _ _ => "exit target unresolved"
  | exitThroughCall _ _ => "vm exit through call"
  | jobQueued _ => "continuation queued"

/-- The fields of a notice by name. -/
def fields : Notice → List (String × Detail)
  | invalidInstruction address => [("address", .text (hex address))]
  | regrouped addresses groups => [("addresses", .count addresses), ("nodes", .count groups)]
  | walkStarted start steps => [("start", .text (hex start)), ("steps", .count steps)]
  | refused matcher => [("matcher", .text matcher)]
  | conflicted matcher derived => [("matcher", .text matcher), ("derived", .text derived.text)]
  | classified handler matcher =>
      [("handler", .text (hex handler)), ("matcher", .text matcher)]
  | probed address found => [("address", .text (hex address)), ("found", .flag found)]
  | changed change => [("kind", .text change.text)]
  | limitReached limit pending => [("limit", .count limit), ("pending", .count pending)]
  | jobStarted job queued => [("task", .text job.text), ("queued", .count queued)]
  | jobFinished => []
  | jobFailed fault => [("error", .text fault.message)]
  | completed totals =>
      [("blocks", .count totals.blocks), ("edges", .count totals.edges),
        ("revisited", .count totals.revisited), ("tasks", .count totals.tasks),
        ("failed", .count totals.failed), ("unknown", .count totals.unknown)]
  | notAnEntry start => [("node", .text (hex start))]
  | entryFound start saveArea =>
      [("node", .text (hex start)), ("save_area", .text (hex saveArea))]
  | cacheHit start handler => [("node", .text (hex start)), ("handler", .text handler)]
  | cacheConflict start handler => [("node", .text (hex start)), ("handler", .text handler)]
  | noEffect start => [("node", .text (hex start))]
  | anchorMissing start handler => [("node", .text (hex start)), ("handler", .text handler)]
  | unknownHandler position steps =>
      [("address", .text position.text), ("steps", .count steps)]
  | alreadyVisited position => [("address", .text position.text)]
  | recovered _ => []
  | selectionKept fault => [("error", .text fault.message)]
  | stackUnknown block => [("block", .text block.text)]
  | branchNotSteered register => [("register", .text register)]
  | branchForked block target => [("block", .text block.text), ("target", .text (hex target))]
  | branchUnresolved block targets =>
      [("block", .text block.text), ("targets", .count targets)]
  | exitUnresolved block targets => [("block", .text block.text), ("targets", .count targets)]
  | exitThroughCall target reentry =>
      [("call", .text (hex target)), ("reentry", .text (hex reentry))]
  | jobQueued job => [("task", .text job.text)]

end Notice

end VmRecovery

/-!
# The report of a recovery
-/

namespace VmRecovery.Flow

/-- Counters over all runs of one recovery. -/
structure Report where
  tasksRun : Nat := 0
  tasksFinished : Nat := 0
  tasksFailed : Nat := 0
  /-- Jobs still queued when the limit stopped the run. -/
  tasksPending : Nat := 0
  unknownHandlers : Nat := 0
  /-- Jobs that arrived at a position which already owned a block. -/
  revisitedBlocks : Nat := 0
  cacheHits : Nat := 0
  cacheMisses : Nat := 0
  deriving DecidableEq, Repr, Inhabited

end VmRecovery.Flow

import VmRecovery.Session
import VmRecovery.Trace.Walker

/-!
# Starting a walk

A walk begins with an engine run. Its trace is added to the observed control flow, and the
groups are renewed before the first occurrence is handed out.
-/

namespace VmRecovery.SessionM

open Machine Trace

variable {σ : Type}

/-- Adds a trace to the observed control flow and renews the groups. -/
def observe (backend : Backend σ) (grouping : Grouping) (path : List UInt64) :
    SessionM σ Grouping := do
  noteLookups backend.decoder (grouping.links.newAddresses path)
  let renewed := (grouping.add backend.decoder path).renew
  note (.regrouped renewed.addressCount renewed.groupCount)
  return renewed

/-- Records a trace from a snapshot. -/
def startWalk (backend : Backend σ) (grouping : Grouping) (snapshot : Snapshot) (budget : Nat) :
    SessionM σ (Walker × Grouping) := do
  let run ← execute backend snapshot budget
  let renewed ← observe backend grouping (run.steps.map Step.address)
  note (.walkStarted snapshot.instructionPointer run.steps.length)
  return (.ofSteps run.steps, renewed)

end VmRecovery.SessionM

import VmRecovery.Entry.Spill
import VmRecovery.Trace.Walk

/-!
# Probing for an entry

A short walk tells whether native code at an address enters the virtual machine. It has its own
view of the control flow, so that it never disturbs the groups of the recovery.
-/

namespace VmRecovery.SessionM

open Trace

variable {σ : Type}

/-- Whether the first occurrence of a fresh execution from an address spills the native
context. -/
def probeEntry (backend : Backend σ) (address : UInt64) (budget : Nat) : SessionM σ Bool := do
  let (walker, grouping) ←
    startWalk backend {} (backend.defaultSnapshot address) budget
  let occurrence := walker.current grouping
  match occurrence.start? with
  | none => return false
  | some start =>
      let fragment ← lift backend occurrence start
      let found := fragment.savedContext?.isSome
      note (.probed address found)
      return found

end VmRecovery.SessionM

import VmRecovery.Fault

/-!
# Settings of a recovery
-/

namespace VmRecovery

/-- The limits of a recovery and how it treats handlers it does not recognise. -/
structure Settings where
  /-- Engine steps recorded when an entry job starts. -/
  entryStepBudget : Nat := 0x10000
  /-- Engine steps recorded when a continuation starts. -/
  continuationStepBudget : Nat := 0x4000
  /-- Engine steps allowed for finding out whether an exit call comes back. -/
  probeStepBudget : Nat := 0x1000
  /-- An unrecognised handler fails its job instead of being recorded. -/
  diagnostic : Bool := false
  /-- The number of jobs after which a recovery stops. -/
  maxTasks : Nat := 0x4000
  deriving DecidableEq, Repr, Inhabited

namespace Settings

/-- The limits by name, in the order in which they are checked. -/
def limits (settings : Settings) : List (String × Nat) :=
  [("entry_step_budget", settings.entryStepBudget),
    ("continuation_step_budget", settings.continuationStepBudget),
    ("probe_step_budget", settings.probeStepBudget),
    ("max_tasks", settings.maxTasks)]

/-- Settings are usable if no limit is zero; otherwise the first such limit is reported. -/
def validate (settings : Settings) : Except Fault Unit :=
  match settings.limits.find? fun limit => limit.2 == 0 with
  | some (name, _) => .error (.invalidSettings (name ++ " must be non-zero"))
  | none => .ok ()

end Settings

end VmRecovery

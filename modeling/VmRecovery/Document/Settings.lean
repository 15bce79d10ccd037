import VmRecovery.Files
import VmRecovery.Json.Reader
import VmRecovery.Json.Schema
import VmRecovery.Settings

/-!
# Documents of settings

What a document of settings leaves out keeps its default.
-/

namespace VmRecovery

namespace Settings

/-- The names of the settings. -/
def keys : List String :=
  ["entry_step_budget", "continuation_step_budget", "probe_step_budget", "diagnostic",
    "max_tasks"]

/-- The JSON form of settings. -/
def toJson (settings : Settings) : Json :=
  .record
    [("entry_step_budget", .nat settings.entryStepBudget),
      ("continuation_step_budget", .nat settings.continuationStepBudget),
      ("probe_step_budget", .nat settings.probeStepBudget),
      ("diagnostic", .bool settings.diagnostic), ("max_tasks", .nat settings.maxTasks)]

/-- Reads settings. -/
def ofJson? (json : Json) : Option Settings := do
  let initial : Settings := {}
  match ← json.fields? keys.length keys with
  | [entry, continuation, probe, diagnostic, tasks] =>
      some
        { entryStepBudget := ← Json.defaulted? initial.entryStepBudget Json.nat? entry
          continuationStepBudget :=
            ← Json.defaulted? initial.continuationStepBudget Json.nat? continuation
          probeStepBudget := ← Json.defaulted? initial.probeStepBudget Json.nat? probe
          diagnostic := ← Json.defaulted? initial.diagnostic Json.bool? diagnostic
          maxTasks := ← Json.defaulted? initial.maxTasks Json.nat? tasks }
  | _ => none

/-- Settings that are usable. -/
def validated (settings : Settings) : Except Fault Settings :=
  settings.validate.map fun _ => settings

/-- Reads usable settings from a document. -/
def ofDocument (document : String) : Except Fault Settings :=
  match (Json.parse? document).bind ofJson? with
  | some settings => settings.validated
  | none => .error .malformedDocument

/-- Reads usable settings from a file. -/
def load (files : Files) (path : String) : Except Fault Settings :=
  files.text path >>= ofDocument

end Settings

end VmRecovery

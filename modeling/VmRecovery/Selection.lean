import VmRecovery.Fault

/-!
# The selected register pair

The first handler that reveals the register pair selects it. Until the next VM branch every
later handler has to agree with the selection; a conflicting pair never replaces it.
-/

namespace VmRecovery

/-- The register pair in force, if one has been revealed since the last VM branch. -/
structure Selection where
  pair? : Option RegisterPair := none
  deriving DecidableEq, Repr, Inhabited

namespace Selection

/-- Nothing is selected. -/
def none : Selection := {}

/-- A selection that starts with a known pair. -/
def of (pair : RegisterPair) : Selection :=
  { pair? := some pair }

/-- Whether a pair is in force. -/
def isSelected (selection : Selection) : Bool :=
  selection.pair?.isSome

/-- Name of the bytecode pointer register. -/
def code? (selection : Selection) : Option String :=
  selection.pair?.map RegisterPair.code

/-- Name of the operand stack pointer register. -/
def stack? (selection : Selection) : Option String :=
  selection.pair?.map RegisterPair.stack

/-- A pair is compatible with the selection if it is the selected one or nothing is selected. -/
def admits (selection : Selection) (pair : RegisterPair) : Bool :=
  match selection.pair? with
  | .none => true
  | some selected => selected == pair

/-- Selects a revealed pair. A pair in conflict with the selection is a fault. -/
def adopt (selection : Selection) (pair : RegisterPair) : Except Fault Selection :=
  match selection.pair? with
  | .none => .ok (.of pair)
  | some selected =>
      if selected = pair then .ok selection
      else .error (.pairMismatch selected pair)

end Selection

end VmRecovery

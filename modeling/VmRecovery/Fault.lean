import VmRecovery.Position
import VmRecovery.RegisterPair

/-!
# Faults

Everything that can go wrong while VM code is recovered. A fault ends the job it arose in;
only a failed lift ends the whole recovery.
-/

namespace VmRecovery

/-- The causes for which a job, or reading a document, is given up. -/
inductive Fault where
  /-- The lifter had nothing for the code at this address. -/
  | liftFailed (address : UInt64)
  /-- No handler shape fits, and such handlers are treated as failures. -/
  | unclassified (position : Position)
  /-- The trace ended before the job reached a terminal instruction. -/
  | traceExhausted (steps : Nat)
  /-- No handler group starts at this index of the trace. -/
  | emptyOccurrence (index : Nat)
  /-- A handler implies another register pair than the selected one. -/
  | pairMismatch (selected derived : RegisterPair)
  /-- The execution engine gave up. -/
  | engine (detail : String)
  /-- A block is missing or already there. -/
  | blockStructure (detail : String)
  /-- A file could not be read as text. -/
  | unreadable (path : String)
  /-- A file could not be written. -/
  | unwritable (path : String)
  /-- A document does not have the form of the data that is read from it. -/
  | malformedDocument
  /-- The settings of a recovery are not usable. -/
  | invalidSettings (detail : String)
  deriving DecidableEq, Repr, Inhabited

namespace Fault

/-- An instruction or a lift was asked for a block that was never opened. -/
def blockMissing (start : Position) : Fault :=
  .blockStructure ("no block at " ++ start.text)

/-- A second block was opened at one position. -/
def blockPresent (start : Position) : Fault :=
  .blockStructure ("block " ++ start.text ++ " already exists")

/-- The wording of a fault. -/
def message : Fault → String
  | liftFailed address => "IR lifting failed for handler at " ++ hex address
  | unclassified position => "no handler pattern matched at " ++ position.text
  | traceExhausted steps => "trace exhausted after " ++ toString steps ++ " steps"
  | emptyOccurrence index => "empty node at trace index " ++ toString index
  | pairMismatch selected derived =>
      "register mismatch: selected " ++ selected.text ++ ", derived " ++ derived.text
  | engine detail => "execution engine failed: " ++ detail
  | blockStructure detail => "invalid block structure: " ++ detail
  | unreadable path => "could not read file '" ++ path ++ "'"
  | unwritable path => "could not write file '" ++ path ++ "'"
  | malformedDocument => "serialization failed"
  | invalidSettings detail => "invalid configuration: " ++ detail

/-- A failed lift leaves nothing to continue with; any other fault concerns its job alone. -/
def isFatal : Fault → Bool
  | liftFailed _ => true
  | _ => false

end Fault

end VmRecovery

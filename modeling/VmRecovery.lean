import VmRecovery.Selection
import VmRecovery.Machine.Snapshot
import VmRecovery.Json.Reader
import VmRecovery.Json.Writer
import VmRecovery.Json.Schema
import VmRecovery.Native.Decoder
import VmRecovery.Ir.Builder
import VmRecovery.Ir.Origin
import VmRecovery.Trace.Walker
import VmRecovery.Instruction
import VmRecovery.Handler.Verdict
import VmRecovery.Handler.Reading
import VmRecovery.Entry.Spill
import VmRecovery.Entry.KeyPush
import VmRecovery.Entry.Probe
import VmRecovery.Handler.Classify
import VmRecovery.Flow.Export
import VmRecovery.Flow.Run
import VmRecovery.Settings
import VmRecovery.Cache
import VmRecovery.X86.Image
import VmRecovery.Document.Native
import VmRecovery.Document.Ir
import VmRecovery.Document.Flow
import VmRecovery.Document.Cache
import VmRecovery.Document.Notice
import VmRecovery.Simulation.Backend
import VmRecovery.Proofs.Trace.Group
import VmRecovery.Proofs.Trace.Coverage
import VmRecovery.Proofs.Trace.Partition
import VmRecovery.Proofs.Trace.Range
import VmRecovery.Proofs.Trace.Agreement
import VmRecovery.Proofs.Trace.Refinement
import VmRecovery.Proofs.Flow.Edit
import VmRecovery.Proofs.Flow.Step
import VmRecovery.Proofs.Flow.Turn
import VmRecovery.Proofs.Flow.Stage
import VmRecovery.Proofs.Flow.Tracking
import VmRecovery.Proofs.Flow.Growth
import VmRecovery.Proofs.Flow.Connected
import VmRecovery.Proofs.Flow.Find
import VmRecovery.Proofs.Flow.Inspection
import VmRecovery.Proofs.Flow.Aftermath
import VmRecovery.Proofs.Flow.Course
import VmRecovery.Proofs.Trace.Stepper
import VmRecovery.Proofs.Simulation.Handlers
import VmRecovery.Proofs.Simulation.Engine
import VmRecovery.Proofs.Flow.Shape
import VmRecovery.Proofs.Flow.Ownership
import VmRecovery.Proofs.Flow.Resumption
import VmRecovery.Proofs.Flow.SaveArea
import VmRecovery.Proofs.Json.Lexing
import VmRecovery.Proofs.Json.Parsing
import VmRecovery.Proofs.Json.Schema
import VmRecovery.Proofs.Document.Pattern
import VmRecovery.Proofs.Document.Cache
import VmRecovery.Proofs.Flow.Backdrop
import VmRecovery.Proofs.Cache
import VmRecovery.Proofs.Flow.Reuse
import VmRecovery.Proofs.Flow.Tally
import VmRecovery.Proofs.Flow.Persistence
import VmRecovery.Proofs.Flow.Learned
import VmRecovery.Proofs.Flow.Outgoing
import VmRecovery.Proofs.Flow.Chronicle
import VmRecovery.Proofs.Flow.Log
import VmRecovery.Proofs.Flow.Calls
import VmRecovery.Proofs.Ir.Provenance
import VmRecovery.Proofs.Ir.Renaming
import VmRecovery.Proofs.Handler.Renaming
import VmRecovery.Proofs.Handler.Equivariance
import VmRecovery.Proofs.Flow.Limit
import VmRecovery.Proofs.Flow.Announcement
import VmRecovery.Proofs.Flow.Ledger
import VmRecovery.Proofs.Flow.Selected
import VmRecovery.Proofs.Handler.Copies
import VmRecovery.Proofs.Document.Canonical
import VmRecovery.Proofs.Handler.Exclusion
import VmRecovery.Proofs.Flow.Act
import VmRecovery.Proofs.Flow.Accounting
import VmRecovery.Proofs.Flow.Probe
import VmRecovery.Proofs.Ir.Acyclic
import VmRecovery.Proofs.Machine.Memory
import VmRecovery.Proofs.Flow.Progress
import VmRecovery.Proofs.Flow.Fork
import VmRecovery.Proofs.Flow.Revisit
import VmRecovery.Proofs.Handler.Traffic
import VmRecovery.Proofs.Handler.Selection
import VmRecovery.Proofs.Handler.Meaning
import VmRecovery.Proofs.Handler.Padding
import VmRecovery.Proofs.Lists
import VmRecovery.Proofs.Table
import VmRecovery.Proofs.Flow.Export
import VmRecovery.Proofs.Handler.Slots
import VmRecovery.Proofs.Handler.Exit
import VmRecovery.Proofs.Entry.Recognition
import VmRecovery.Proofs.Machine.Registers
import VmRecovery.Proofs.Machine.Stores
import VmRecovery.Proofs.Native.Operand
import VmRecovery.Proofs.Handler.SaveSlot
import VmRecovery.Proofs.Ir.Building

import VmRecovery.Json.Schema
import VmRecovery.Json.Token
import VmRecovery.RegisterPair
import VmRecovery.Trace.Occurrence

/-!
# Documents of positions, registers, snapshots and steps

The memory of a snapshot is an object from decimal addresses to bytes, in ascending order.
-/

namespace VmRecovery

/-- The JSON form of a position. -/
def Position.toJson (position : Position) : Json :=
  .record [("native", .nat position.native.toNat), ("vm", .nat position.vm.toNat)]

/-- Reads a position. -/
def Position.ofJson? (json : Json) : Option Position := do
  match ← json.record? ["native", "vm"] with
  | [native, vm] =>
      some
        { native := ← Json.required? Json.uint64? native
          vm := ← Json.required? Json.uint64? vm }
  | _ => none

/-- The JSON form of a register pair. -/
def RegisterPair.toJson (pair : RegisterPair) : Json :=
  .record [("code", .string pair.code), ("stack", .string pair.stack)]

/-- Reads a register pair. -/
def RegisterPair.ofJson? (json : Json) : Option RegisterPair := do
  match ← json.record? ["code", "stack"] with
  | [code, stack] =>
      some
        { code := ← Json.required? Json.string? code
          stack := ← Json.required? Json.string? stack }
  | _ => none

namespace Machine

/-- The names of the registers in a document. -/
def Registers.keys : List String :=
  ["eax", "ecx", "edx", "ebx", "esp", "ebp", "esi", "edi", "eip", "eflags"]

/-- The JSON form of the registers. -/
def Registers.toJson (registers : Registers) : Json :=
  .record
    [("eax", .nat registers.eax.toNat), ("ecx", .nat registers.ecx.toNat),
      ("edx", .nat registers.edx.toNat), ("ebx", .nat registers.ebx.toNat),
      ("esp", .nat registers.esp.toNat), ("ebp", .nat registers.ebp.toNat),
      ("esi", .nat registers.esi.toNat), ("edi", .nat registers.edi.toNat),
      ("eip", .nat registers.eip.toNat), ("eflags", .nat registers.eflags.toNat)]

/-- The registers with the given contents, in the order of their names in a document. -/
def Registers.ofContents? : List UInt32 → Option Registers
  | [eax, ecx, edx, ebx, esp, ebp, esi, edi, eip, eflags] =>
      some { eax, ecx, edx, ebx, esp, ebp, esi, edi, eip, eflags }
  | _ => none

/-- Reads the registers. -/
def Registers.ofJson? (json : Json) : Option Registers := do
  let fields ← json.record? keys
  ofContents? (← fields.mapM (Json.required? Json.uint32?))

/-- Reads registers some of which may be left out; those are zero. -/
def Registers.ofPartialJson? (json : Json) : Option Registers := do
  let fields ← json.record? keys
  ofContents? (← fields.mapM (Json.defaulted? 0 Json.uint32?))

/-- The JSON form of memory. -/
def Memory.toJson (memory : Memory) : Json :=
  .record (memory.toList.map fun (address, byte) => (toString address.toNat, .nat byte.toNat))

/-- The address that a key of a memory object spells. -/
def Memory.addressOfKey? (key : Json.Text) : Option UInt64 := do
  if key.verbatim then
    let numeral ← Json.Numeral.ofChars? (← key.chars?).toList
    Json.uint64? (.number numeral)
  else none

/-- Reads memory. Of several bytes for one address the last one counts. -/
def Memory.ofJson? : Json → Option Memory
  | .object fields =>
      fields.foldlM
        (fun memory (key, value) => do
          return memory.insert (← addressOfKey? key) (← value.uint8?))
        {}
  | _ => none

/-- The JSON form of a snapshot. -/
def Snapshot.toJson (snapshot : Snapshot) : Json :=
  .record [("registers", snapshot.registers.toJson), ("memory", snapshot.memory.toJson)]

/-- Reads a snapshot. -/
def Snapshot.ofJson? (json : Json) : Option Snapshot := do
  match ← json.record? ["registers", "memory"] with
  | [registers, memory] =>
      some
        { registers := ← Json.required? Registers.ofJson? registers
          memory := ← Json.required? Memory.ofJson? memory }
  | _ => none

end Machine

open Machine

/-- The JSON form of an executed step. -/
def Trace.Step.toJson (step : Trace.Step) : Json :=
  .record [("address", .nat step.address.toNat), ("registers", step.registers.toJson)]

/-- Reads an executed step. -/
def Trace.Step.ofJson? (json : Json) : Option Trace.Step := do
  match ← json.record? ["address", "registers"] with
  | [address, registers] =>
      some
        { address := ← Json.required? Json.uint64? address
          registers := ← Json.required? Registers.ofJson? registers }
  | _ => none

end VmRecovery

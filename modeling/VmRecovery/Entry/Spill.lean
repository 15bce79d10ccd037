import VmRecovery.Instruction
import VmRecovery.Ir.Fragment
import VmRecovery.Table

/-!
# The entry routine

Every entry into the virtual machine spills the native context to the native stack, eleven
dwords directly below the incoming stack pointer, and then reserves the save area of the
virtual registers with a single subtraction from the stack pointer.
-/

namespace VmRecovery

/-- A recognised entry into the virtual machine. -/
structure Entry where
  /-- The spilled values, highest slot first. -/
  saved : List SavedValue
  /-- Native address of the save area under the engine's default stack. -/
  saveArea : UInt64
  deriving DecidableEq, Repr, Inhabited

/-- The number of dwords that an entry routine spills. -/
def Entry.slotCount : Nat := 11

/-- The stack offsets of the spilled dwords, highest first. -/
def Entry.offsets : List Int64 :=
  (List.range Entry.slotCount).map fun (slot : Nat) => -4 * (Int64.ofNat slot + 1)

namespace Ir.Fragment

variable (fragment : Fragment)

/-- The spilled form of a value, which has to be a constant or to live in a register. -/
def savedValue? (value : ValueId) : Option SavedValue :=
  match (fragment.value? value).map Value.location with
  | some (.constant value) => some (.constant value)
  | some (.register name) => some (.register name)
  | _ => none

/-- The stack slot that a copy writes and the value it puts there. -/
def spill? (op : Op) : Option (Int64 × SavedValue) :=
  if op.code = .copy then do
    let output ← op.output
    let input ← op.inputs.head?
    match (fragment.value? output).map Value.location with
    | some (.stack offset) => (fragment.savedValue? input).map fun saved => (offset, saved)
    | _ => none
  else none

/-- The values that the slots are left with. -/
def spills : Std.TreeMap Int64 SavedValue :=
  tableOf fragment.spill? fragment.ops.toList

/-- The native context that an entry routine spills, if it writes all of the slots. -/
def savedContext? : Option (List SavedValue) :=
  if fragment.spills.size < Entry.slotCount then none
  else Entry.offsets.mapM fun offset => fragment.spills[offset]?

/-- The constant that an operation subtracts from the incoming stack pointer. -/
def reservation? (op : Op) : Option UInt64 :=
  match op.code, op.inputs with
  | .ptrSub, base :: delta :: _ =>
      if fragment.isInput base && fragment.registerOf? base == some "ESP" then
        fragment.constantOf? delta
      else none
  | _, _ => none

/-- The operation behind a value, looking through one copy. -/
def opBehindCopy? (value : ValueId) : Option Op := do
  let definition ← fragment.definingOp? value
  if definition.code = .copy then definition.inputs.head?.bind fragment.definingOp?
  else some definition

/-- The reservation that the stack pointer is left with at the return. -/
def returnedReservation? : Option UInt64 :=
  fragment.returns.findSome? fun (name, value) =>
    if name == "ESP" then (fragment.opBehindCopy? value).bind fragment.reservation? else none

/-- The native address of the save area, in 32-bit arithmetic. -/
def saveArea? (stackPointer : UInt64) : Option UInt64 :=
  fragment.returnedReservation?.map fun delta =>
    (stackPointer.toUInt32 + delta.toUInt32).toUInt64

/-- Recognises an entry routine. -/
def entry? (stackPointer : UInt64) : Option Entry := do
  return { saved := ← fragment.savedContext?, saveArea := ← fragment.saveArea? stackPointer }

end Ir.Fragment

end VmRecovery

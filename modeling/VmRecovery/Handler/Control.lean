import VmRecovery.Handler.Draft
import VmRecovery.Table

/-!
# Handlers that change where execution goes on

Jumps, the handlers that replace the VM stack pointer or the flags, and the exit: handlers that
are recognised by what is live at the return rather than by a memory write.
-/

namespace VmRecovery.Ir.Fragment

variable (fragment : Fragment)

/-- The operation that tells the slot which a restored register was read from. A load through a
computed pointer is described by the computation of its pointer. -/
def slotOp? (value : ValueId) : Option Op := do
  let definition ← fragment.definingOp? value
  if definition.code = .load then
    match definition.inputs.head? with
    | some pointer =>
        if fragment.isInput pointer then some definition else fragment.definingOp? pointer
    | none => some definition
  else some definition

/-- The slot of the VM stack, counted in dwords, that a value was read from. -/
def slotOf? (value : ValueId) : Option UInt64 := do
  let op ← fragment.slotOp? value
  match op.code with
  | .load => some 0
  | .ptrAdd =>
      if op.inputs[2]?.bind fragment.constantOf? = some 4 then
        op.inputs[1]?.bind fragment.constantOf?
      else none
  | _ => none

/-- The register that a binding restores, and the slot that it does so from. -/
def restoration? (binding : String × ValueId) : Option (UInt64 × String) :=
  (fragment.slotOf? binding.2).map fun slot => (slot, binding.1)

/-- The registers restored from the slots. -/
def restorations : Std.TreeMap UInt64 String :=
  tableOf fragment.restoration? fragment.returns

/-- The register restored from a slot. Of several the last one counts. -/
def restoredFrom? (slot : UInt64) : Option String :=
  fragment.restorations[slot]?

/-- The first slots of the VM stack, which an exit restores. -/
def exitSlots : List UInt64 :=
  [0, 1, 2, 3, 4, 5, 6, 7, 8, 9]

/-- Whether a load result is copied into the flags. -/
def reachesFlags (value : ValueId) : Bool :=
  (fragment.usesOf value).any fun user =>
    user.code == .copy &&
      ((user.output.bind fragment.registerOf?).any fun name => sameName name "EFLAGS")

/-- An operation that subtracts a constant from the incoming native stack pointer. -/
def isStackReservation (op : Op) : Bool :=
  op.code == .ptrSub &&
    op.inputs.head?.any fun base =>
      fragment.isInput base && fragment.registerOf? base == some "ESP"

end VmRecovery.Ir.Fragment

namespace VmRecovery.Handler

open Ir

namespace Site

variable (site : Site)

/-- A jump whose target is computed from one bytecode operand and one register. -/
def jmpConst? : Option Draft :=
  if site.traffic ≠ (0, 1) then none
  else
    match site.returnOrigins? "EIP" with
    | some [first, second] =>
        if first.viaMemory != second.viaMemory then some (.settled .jmpConst) else none
    | _ => none

/-- A jump to a bytecode address from the VM stack. -/
def jmp? : Option Draft := do
  let stack ← site.selection.stack?
  match site.stores, site.loads with
  | [], [load] =>
      if site.pointerRegister? load = some stack then some (.settled .jmp) else none
  | [], [first, second] =>
      if site.pointerRegister? first = some stack then
        match site.inputOrigins second 0 with
        | [origin] => if origin.matches stack true then some (.settled .jmp) else none
        | _ => none
      else none
  | _, _ => none

/-- The VM stack pointer replaced by a value from the VM stack. -/
def writeVsp? : Option Draft := do
  let stack ← site.selection.stack?
  if site.traffic ≠ (0, 2) then none
  else
    match site.returnOrigins? stack with
    | some [origin] => if origin.matches stack true then some (.settled .writeVsp) else none
    | _ => none

/-- The flags replaced by a value from the VM stack. -/
def popfd? : Option Draft := do
  let stack ← site.selection.stack?
  match site.stores, site.loads with
  | [], load :: _ =>
      if site.pointerRegister? load = some stack then
        let value ← load.output
        if site.fragment.reachesFlags value then some (.settled .popfd) else none
      else none
  | _, _ => none

/-- Native registers restored from ten consecutive slots of the VM stack. -/
def exit? : Option Draft :=
  if site.loads.length < 7 then none
  else (Fragment.exitSlots.mapM site.fragment.restoredFrom?).map fun restored =>
    .settled (.exit restored)

/-- A check of the room on the native stack, which has no effect on the virtual machine. -/
def isStackGuard : Bool :=
  site.traffic == (0, 0) && site.fragment.ops.any site.fragment.isStackReservation

/-- Code without any memory traffic. -/
def isJunk : Bool :=
  site.traffic == (0, 0)

end Site

/-- The matchers of handlers that change where execution goes on, in order of precedence. -/
def controlMatchers : List Matcher :=
  [.ofShape "jmp_const" Site.jmpConst?,
    .ofShape "jmp" Site.jmp?,
    .ofShape "write_vsp" Site.writeVsp?]

/-- The matchers that are tried after all others. -/
def fallbackMatchers : List Matcher :=
  [.ofShape "popfd" Site.popfd?,
    .ofShape "exit" Site.exit?]

end VmRecovery.Handler

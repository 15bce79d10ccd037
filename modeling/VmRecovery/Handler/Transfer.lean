import VmRecovery.Handler.Draft

/-!
# Handlers that move one value

Pushes, pops and memory accesses: handlers with exactly one memory write. Which register the
write goes through and where its value comes from tells them apart.
-/

namespace VmRecovery.Handler

open Ir

namespace Site

variable (site : Site)

/-- The pair that a pop into the save area reveals, with its store and the origin of the popped
value: the value is read through the stack register, and the pointer combines the native stack
pointer with an operand read through the code register. -/
def revealedPair? : Option (RegisterPair × Op × Origin) :=
  if site.traffic ≠ (1, 3) then none
  else match site.stores.head? with
    | none => none
    | some store =>
        match site.sourceOrigins store with
        | [source] =>
            let targets := site.targetOrigins store
            let codes := targets.filter fun origin =>
              origin.viaMemory && origin.name != source.name
            match codes.getLast? with
            | none => none
            | some code =>
                if source.viaMemory && targets.any (·.matches "ESP" false) then
                  some ({ code := code.name, stack := source.name }, store, source)
                else none
        | _ => none

/-- The one memory write of a handler that pushes to the VM stack. -/
def pushStore? (stack : String) : Option Op :=
  match site.stores with
  | [store] =>
      match site.targetOrigins store with
      | [target] => if !target.viaMemory && target.name == stack then some store else none
      | _ => none
  | _ => none

/-- A virtual register pushed onto the VM stack: the value is read through the native stack
pointer at an offset from the bytecode. -/
def pushReg? : Option Draft := do
  let pair ← site.selection.pair?
  if site.loads.length < 3 then none
  else
    let store ← site.pushStore? pair.stack
    let sources := site.sourceOrigins store
    let slot ← (sources.filter (·.matches "ESP" true)).getLast?
    let load ← slot.address
    if sources.any (·.matches pair.code true) then
      some (.sized 1 load fun size => .pushReg size load)
    else none

/-- An immediate from the bytecode pushed onto the VM stack: memory is read through the code
register only. -/
def pushImm? : Option Draft := do
  let pair ← site.selection.pair?
  if site.loads.length < 2 then none
  else
    let store ← site.pushStore? pair.stack
    let load ← site.loads.head?
    if (site.sourceOrigins store).any fun origin => origin.viaMemory && origin.name != pair.code
    then none
    else some (.loaded load fun size => .pushImm size load.address store.address)

/-- The VM stack pointer pushed onto the VM stack. -/
def pushVsp? : Option Draft := do
  let stack ← site.selection.stack?
  if site.traffic ≠ (1, 1) then none
  else
    let store ← site.stores.head?
    match site.targetOrigins store, site.sourceOrigins store with
    | [target], [source] =>
        if target.matches stack false && source.matches stack false then
          some (.sized 0 store.address .pushVsp)
        else none
    | _, _ => none

/-- The segment of a memory access, by the origins of the accessed value. An origin before the
value stands for the base of a segment. -/
def accessSegment? (stack : String) : List Origin → Option (Option Segment)
  | [value] => if value.matches stack true then some none else none
  | [segment, value] =>
      if value.matches stack true then
        some (if segment.name == "FS_OFFSET" then some .fs else none)
      else none
  | _ => none

/-- Memory read or written at an address from the VM stack. It is a write if the pointer itself
was read from the VM stack. -/
def memAccess? : Option Draft := do
  let stack ← site.selection.stack?
  if site.traffic ≠ (1, 3) then none
  else
    let store ← site.stores.head?
    let load ← site.loads[1]?
    match site.targetOrigins store with
    | [target] =>
        if target.name != stack then none
        else
          let segment ← accessSegment? stack (site.sourceOrigins store)
          some (.loaded load fun size =>
            if target.viaMemory then .writeMem size else .readMem size segment)
    | _ => none

end Site

/-- Pop into the save area. This is the handler that reveals the register pair, so it alone can
be in conflict with the selection. -/
def popRegMatcher : Matcher where
  name := "pop_reg"
  draft site :=
    match site.revealedPair? with
    | none => .error .shape
    | some (pair, store, source) =>
        if !site.selection.admits pair then .error (.conflict pair)
        else
          match source.address with
          | none => .ok (.settled (.popReg 0 store.address pair))
          | some load => .ok (.sized 1 load fun size => .popReg size store.address pair)

/-- The matchers of handlers with one memory write, in order of precedence. -/
def transferMatchers : List Matcher :=
  [popRegMatcher,
    .ofShape "push_reg" Site.pushReg?,
    .ofShape "push_imm" Site.pushImm?,
    .ofShape "push_vsp" Site.pushVsp?,
    .ofShape "mem_access" Site.memAccess?]

end VmRecovery.Handler

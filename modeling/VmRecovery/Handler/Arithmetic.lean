import VmRecovery.Handler.Draft

/-!
# Handlers that compute

Arithmetic handlers write a result and the new flags through the bare stack register. Which
operation they perform is read off the definition of the result, or off the mnemonic of the
native instruction that computed it.
-/

namespace VmRecovery.Handler

open Ir Native

/-- What an operation on the way to the meaning of a result tells. -/
structure Clue where
  /-- The meaning, if the operation decides it. -/
  meaning : Option BinaryOp := none
  /-- The operations to look at instead. -/
  behind : List Op := []
  deriving DecidableEq, Repr, Inhabited

/-- The search has to go on behind an operation that only changes the width. -/
def Clue.further (behind : List Op) : Clue :=
  { behind }

/-- An operation decides the meaning if it has the required inputs, and leads nowhere else. -/
def Clue.decided (condition : Bool) (meaning : BinaryOp) : Clue :=
  { meaning := if condition then some meaning else none }

end VmRecovery.Handler

namespace VmRecovery.Ir.Fragment

open Handler

variable (fragment : Fragment)

/-- The operation that defines an input of an operation. -/
def inputDefinition? (op : Op) (place : Nat) : Option Op :=
  op.inputs[place]?.bind fragment.definingOp?

/-- Whether an input of an operation is defined by an operation of the given kind. -/
def inputIs (op : Op) (place : Nat) (code : Opcode) : Bool :=
  (fragment.inputDefinition? op place).any fun definition => definition.code == code

/-- Whether an input of an operation is a constant. -/
def inputIsConstant (op : Op) (place : Nat) : Bool :=
  (op.inputs[place]?.bind fragment.constantOf?).isSome

/-- What one operation tells about the meaning of a result. Extensions, truncations, masks and
concatenations only change the width. -/
def clue (op : Op) : Clue :=
  match op.code with
  | .intZext => .further (fragment.inputDefinition? op 0).toList
  | .subPiece => .further (fragment.inputDefinition? op 0).toList
  | .piece => .further (op.inputs.filterMap fragment.definingOp?).reverse
  | .intLeft => .decided (fragment.inputIs op 0 .load) .shl
  | .intRight => .decided (fragment.inputIs op 0 .load) .shr
  | .intAdd => .decided (fragment.inputIs op 0 .load && fragment.inputIs op 1 .load) .add
  | .intAnd =>
      if fragment.inputIsConstant op 1 then .further (fragment.inputDefinition? op 0).toList
      else .decided (fragment.inputIs op 0 .intNegate && fragment.inputIs op 1 .intNegate) .nor
  | .intOr => .decided (fragment.inputIs op 0 .intNegate && fragment.inputIs op 1 .intNegate) .nand
  | _ => {}

/-- Looks at the operations at hand, the first one first, and at what lies behind an operation
before its successors. At most `steps` operations are looked at. -/
def meaningWithin (steps : Nat) (pending : List Op) : Option BinaryOp :=
  match steps, pending with
  | steps + 1, op :: rest =>
      match (fragment.clue op).meaning with
      | some meaning => some meaning
      | none => meaningWithin steps ((fragment.clue op).behind ++ rest)
  | _, _ => none

/-- A bound on the number of operations met when definitions are followed backwards without
meeting an operation below itself: every operation has at most `maxArity` inputs, and a path
has no more operations than the fragment. -/
def pathBound : Nat :=
  Nat.pow (fragment.maxArity + 1) (fragment.ops.size + 1)

/-- The meaning of a result, by the operation that defines it. -/
def meaning? (definition : Op) : Option BinaryOp :=
  fragment.meaningWithin fragment.pathBound [definition]

end VmRecovery.Ir.Fragment

namespace VmRecovery.Handler

open Ir Native

/-- Whether a word occurs in a text. -/
def occursIn (word : List Char) : List Char → Bool
  | [] => word.isEmpty
  | c :: rest => word.isPrefixOf (c :: rest) || occursIn word rest

namespace Site

variable (site : Site)

/-- The memory write of an arithmetic result: it goes through the bare stack register, and
memory is read through the stack register only. -/
def resultStore? : Option Op := do
  let stack ← site.selection.stack?
  let store ← site.stores.head?
  match site.targetOrigins store with
  | [target] =>
      if target.matches stack false &&
        (site.sourceOrigins store).all fun origin => !origin.viaMemory || origin.name == stack
      then some store
      else none
  | _ => none

/-- Addition, negated conjunction and disjunction, and shifts. -/
def binary? : Option Draft :=
  if site.traffic ≠ (2, 3) then none
  else do
    let store ← site.resultStore?
    let op ← site.fragment.meaning? (← site.sourceDefinition? store)
    let load ← site.loads.head?
    some (.loaded load (.binary op))

/-- The double shift that a mnemonic names. -/
def doubleShiftOf? (mnemonic : Mnemonic) : Option (UInt8 → Pattern) :=
  if mnemonic = .shld then some (.doubleShift .shld)
  else if mnemonic = .shrd then some (.doubleShift .shrd)
  else none

/-- Shifts of two joined values. -/
def doubleShift? : Option Draft :=
  if site.traffic ≠ (2, 4) then none
  else do
    let store ← site.resultStore?
    let definition ← site.sourceDefinition? store
    let load ← site.loads.head?
    some (.named definition.address doubleShiftOf? load.address)

/-- Whether a value is a result of the processor identification, by its first origin. -/
def isIdentification (store : Op) : Bool :=
  match (site.sourceOrigins store).head? with
  | some origin =>
      occursIn "cpuid".toList (origin.name.toList.map Char.toLower)
  | none => false

/-- Processor identification: every stored value is a result of it. -/
def cpuid? : Option Draft :=
  if site.stores.length < 4 then none
  else if site.stores.all site.isIdentification then some (.settled .cpuid)
  else none

/-- The product that a mnemonic names. -/
def productOf? (mnemonic : Mnemonic) : Option (UInt8 → Pattern) :=
  if mnemonic = .imul then some .mul else none

/-- The product of the two topmost values of the VM stack. -/
def mul? : Option Draft := do
  let stack ← site.selection.stack?
  if site.traffic ≠ (3, 3) then none
  else
    let store ← site.stores.head?
    let load ← site.loads.head?
    match site.targetOrigins store, site.sourceOrigins store with
    | [target], [first, second] =>
        if target.name == stack && first.matches stack true && second.matches stack true then
          let definition ← site.sourceDefinition? store
          some (.named definition.address productOf? load.address)
        else none
    | _, _ => none

end Site

/-- The matchers of handlers that compute, in order of precedence. -/
def arithmeticMatchers : List Matcher :=
  [.ofShape "binary" Site.binary?,
    .ofShape "double_shift" Site.doubleShift?,
    .ofShape "cpuid" Site.cpuid?,
    .ofShape "mul" Site.mul?]

end VmRecovery.Handler

import VmRecovery.Handler.Pattern
import VmRecovery.Ir.Origin
import VmRecovery.Native.Decoder

/-!
# From dataflow to pattern

A handler is recognised in two stages. Its dataflow alone yields a draft; the decoder then
supplies what the dataflow does not tell, an access size or the mnemonic behind a result.
Keeping the stages apart makes it plain which instructions a matcher looks up, and that nothing
else about the native code matters.
-/

namespace VmRecovery.Handler

open Ir Native

/-- What a matcher looks at: the dataflow of a handler and the register pair in force. -/
structure Site where
  fragment : Fragment
  selection : Selection
  deriving DecidableEq, Repr, Inhabited

namespace Site

variable (site : Site)

/-- The memory writes in program order. -/
def stores : List Op :=
  site.fragment.stores

/-- The memory reads in program order. -/
def loads : List Op :=
  site.fragment.loads

/-- How many memory writes and reads there are. -/
def traffic : Nat × Nat :=
  (site.stores.length, site.loads.length)

/-- The origins of an input of an operation; none if the input is missing. -/
def inputOrigins (op : Op) (place : Nat) : List Origin :=
  match op.inputs[place]? with
  | some value => site.fragment.origins value
  | none => []

/-- The origins of the pointer of a memory write. -/
def targetOrigins (store : Op) : List Origin :=
  site.inputOrigins store 0

/-- The origins of the value of a memory write. -/
def sourceOrigins (store : Op) : List Origin :=
  site.inputOrigins store 1

/-- The operation that defines the value of a memory write. -/
def sourceDefinition? (store : Op) : Option Op :=
  store.inputs[1]?.bind site.fragment.definingOp?

/-- The register that a load uses as its pointer without further computation. -/
def pointerRegister? (load : Op) : Option String :=
  load.inputs.head?.bind site.fragment.registerOf?

/-- The origins of the value bound to a register at the return. -/
def returnOrigins? (register : String) : Option (List Origin) :=
  (site.fragment.returnBinding? register).map site.fragment.origins

end Site

/-- Why a matcher declines a handler. -/
inductive Refusal where
  /-- The dataflow does not have the matcher's shape. -/
  | shape
  /-- The handler reveals another register pair than the selected one. -/
  | conflict (derived : RegisterPair)
  deriving DecidableEq, Repr, Inhabited

/-- A pattern as far as the dataflow determines it. -/
inductive Draft where
  | settled (pattern : Pattern)
  /-- The width is the access size of the memory operand at a place of an instruction. -/
  | sized (place : Nat) (address : UInt64) (pattern : UInt8 → Pattern)
  /-- The mnemonic of an instruction decides, and the width is that of a load. -/
  | named (definition : UInt64) (patternOf : Mnemonic → Option (UInt8 → Pattern)) (load : UInt64)

namespace Draft

/-- A draft whose width is the access size of a load. -/
def loaded (load : Op) (pattern : UInt8 → Pattern) : Draft :=
  .sized 1 load.address pattern

/-- Completes a draft. There is no pattern if the mnemonic is not the expected one. -/
def resolve (decoder : Decoder) : Draft → Option Pattern
  | settled pattern => some pattern
  | sized place address pattern => some (pattern (decoder.accessSize place address))
  | named definition patternOf load =>
      ((decoder.mnemonicAt definition).bind patternOf).map fun pattern =>
        pattern (decoder.loadSize load)

/-- The addresses that are looked up to complete a draft, in order. -/
def lookups (decoder : Decoder) : Draft → List UInt64
  | settled _ => []
  | sized _ address _ => [address]
  | named definition patternOf load =>
      definition ::
        if ((decoder.mnemonicAt definition).bind patternOf).isSome then [load] else []

end Draft

/-- One way to recognise a handler. -/
structure Matcher where
  name : String
  draft : Site → Except Refusal Draft

namespace Matcher

/-- A matcher that can only decline for lack of its shape. -/
def ofShape (name : String) (shape : Site → Option Draft) : Matcher :=
  { name
    draft := fun site =>
      match shape site with
      | some draft => .ok draft
      | none => .error .shape }

/-- Applies a matcher to a handler. -/
def apply (matcher : Matcher) (decoder : Decoder) (site : Site) : Except Refusal Pattern :=
  match matcher.draft site with
  | .error refusal => .error refusal
  | .ok draft =>
      match draft.resolve decoder with
      | some pattern => .ok pattern
      | none => .error .shape

/-- The addresses that a matcher looks up, in order. -/
def lookups (matcher : Matcher) (decoder : Decoder) (site : Site) : List UInt64 :=
  match matcher.draft site with
  | .error _ => []
  | .ok draft => draft.lookups decoder

end Matcher

end VmRecovery.Handler

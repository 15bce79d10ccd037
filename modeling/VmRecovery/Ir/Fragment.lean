/-!
# Lifted code

A fragment is the dataflow of one handler or block: a list of operations over values. Every
value records where it lives and which operation defined it, so that a shape can be recognised
by walking from a result back to the registers it derives from. Values and operations are
referred to by their indices; an index that does not belong to the fragment denotes nothing.
-/

namespace VmRecovery.Ir

/-- Where a value lives. -/
inductive Location where
  /-- A native register, by its upper-case name. -/
  | register (name : String)
  /-- A slot of the native stack, by its offset from the incoming stack pointer. -/
  | stack (offset : Int64)
  | constant (value : UInt64)
  | temporary
  deriving DecidableEq, Repr, Inhabited

/-- What an operation computes. -/
inductive Opcode where
  | copy
  /-- The first input is the pointer. -/
  | load
  /-- The first input is the pointer, the second one the stored value. -/
  | store
  | intAdd
  | intSub
  | intAnd
  | intOr
  | intXor
  | intNegate
  | intLeft
  | intRight
  | intSright
  | intMult
  | intZext
  | intSext
  | subPiece
  | piece
  /-- Base, index and element size: `base + index * size`. -/
  | ptrAdd
  /-- Base and constant: `base - constant`. -/
  | ptrSub
  | ret
  /-- An operation that no shape looks into. -/
  | other
  deriving DecidableEq, Repr, Inhabited

/-- Index of a value. -/
abbrev ValueId := Nat

/-- Index of an operation. -/
abbrev OpId := Nat

/-- A value of a fragment. -/
structure Value where
  location : Location
  /-- Width in bytes. -/
  size : UInt8
  /-- The defining operation; values that flow in and constants have none. -/
  definedBy : Option OpId
  deriving DecidableEq, Repr, Inhabited

/-- An operation of a fragment. -/
structure Op where
  /-- Address of the native instruction that the operation was lifted from. -/
  address : UInt64
  code : Opcode
  inputs : List ValueId
  output : Option ValueId
  deriving DecidableEq, Repr, Inhabited

/-- A lifted handler or block. -/
structure Fragment where
  /-- The address that the fragment was lifted from. -/
  entry : UInt64
  values : Array Value := #[]
  ops : Array Op := #[]
  /-- The registers live at the return, with their values. -/
  returns : List (String × ValueId) := []
  deriving DecidableEq, Repr, Inhabited

/-- Equality of names up to the case of ASCII letters. -/
def sameName (left right : String) : Bool :=
  left.map Char.toLower == right.map Char.toLower

namespace Fragment

variable (fragment : Fragment)

/-- The value with an index. -/
def value? (id : ValueId) : Option Value :=
  fragment.values[id]?

/-- The operation with an index. -/
def op? (id : OpId) : Option Op :=
  fragment.ops[id]?

/-- The index of the operation that defines a value. -/
def definition? (id : ValueId) : Option OpId := do
  let op ← (← fragment.value? id).definedBy
  if op < fragment.ops.size then some op else none

/-- The operation that defines a value. -/
def definingOp? (id : ValueId) : Option Op := do
  let op ← (← fragment.value? id).definedBy
  fragment.op? op

/-- The operations of one kind in program order. -/
def opsOf (code : Opcode) : List Op :=
  fragment.ops.toList.filter fun op => op.code == code

/-- The memory reads in program order. -/
def loads : List Op :=
  fragment.opsOf .load

/-- The memory writes in program order. -/
def stores : List Op :=
  fragment.opsOf .store

/-- The indices of the operations with a property, in program order. -/
def indicesOf (property : Op → Bool) : List OpId :=
  (fragment.ops.toList.zipIdx.filter fun indexed => property indexed.1).map Prod.snd

/-- The index of the last return. -/
def returnIndex? : Option OpId :=
  (fragment.indicesOf fun op => op.code == .ret).getLast?

/-- The value bound to a register at the return, whatever the case of its name. -/
def returnBinding? (name : String) : Option ValueId :=
  (fragment.returns.find? fun binding => sameName binding.1 name).map Prod.snd

/-- The register that a value lives in. -/
def registerOf? (id : ValueId) : Option String :=
  match (fragment.value? id).map Value.location with
  | some (.register name) => some name
  | _ => none

/-- The constant that a value is. -/
def constantOf? (id : ValueId) : Option UInt64 :=
  match (fragment.value? id).map Value.location with
  | some (.constant value) => some value
  | _ => none

/-- A value that flows into the fragment: it has no definition and is no constant. -/
def isInput (id : ValueId) : Bool :=
  match fragment.value? id with
  | some { location := .constant _, .. } => false
  | some value => value.definedBy.isNone
  | none => false

/-- The operations that read a value, in program order. -/
def usesOf (id : ValueId) : List Op :=
  fragment.ops.toList.filter fun op => op.inputs.contains id

/-- The largest number of inputs of an operation. -/
def maxArity : Nat :=
  fragment.ops.foldl (fun arity op => max arity op.inputs.length) 0

end Fragment

end VmRecovery.Ir

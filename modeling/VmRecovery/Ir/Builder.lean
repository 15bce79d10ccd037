import VmRecovery.Ir.Fragment

/-!
# Building fragments

A lifter describes a fragment by a sequence of builder actions. Each action appends a value or
an operation and answers its index, so indices handed out earlier keep their meaning.
-/

namespace VmRecovery.Ir

/-- An action on the fragment under construction. -/
abbrev Build := StateM Fragment

namespace Build

/-- Appends a value. -/
def addValue (location : Location) (size : UInt8) (definedBy : Option OpId) : Build ValueId :=
  modifyGet fun fragment =>
    (fragment.values.size,
      { fragment with values := fragment.values.push { location, size, definedBy } })

/-- Appends an operation. -/
def addOp (op : Op) : Build OpId :=
  modifyGet fun fragment =>
    (fragment.ops.size, { fragment with ops := fragment.ops.push op })

/-- The incoming value of a register. Repeated requests answer the same value. -/
def input (name : String) (size : UInt8) : Build ValueId := do
  let location := Location.register (name.map Char.toUpper)
  let known := (← get).values.findIdx? fun value =>
    value.definedBy.isNone && value.location == location
  match known with
  | some id => return id
  | none => addValue location size none

/-- The incoming value of a native stack slot. -/
def stackInput (offset : Int64) (size : UInt8) : Build ValueId :=
  addValue (.stack offset) size none

/-- A constant. -/
def constant (value : UInt64) (size : UInt8) : Build ValueId :=
  addValue (.constant value) size none

/-- Appends an operation whose result lives at a location. -/
def emitInto (address : UInt64) (code : Opcode) (inputs : List ValueId) (location : Location)
    (size : UInt8) : Build ValueId := do
  let output ← addValue location size (some (← get).ops.size)
  let _ ← addOp { address, code, inputs, output := some output }
  return output

/-- Appends an operation whose result is a fresh temporary. -/
def emit (address : UInt64) (code : Opcode) (inputs : List ValueId) (size : UInt8) :
    Build ValueId :=
  emitInto address code inputs .temporary size

/-- Appends a memory read. -/
def load (address : UInt64) (pointer : ValueId) (size : UInt8) : Build ValueId :=
  emit address .load [pointer] size

/-- Appends a memory write. -/
def store (address : UInt64) (pointer value : ValueId) : Build OpId :=
  addOp { address, code := .store, inputs := [pointer, value], output := none }

/-- Appends a copy of a value to a location. The copy is as wide as the value. -/
def copyTo (address : UInt64) (value : ValueId) (location : Location) : Build ValueId := do
  let size := ((← get).value? value).elim 0 Value.size
  emitInto address .copy [value] location size

/-- Appends a return and binds the registers that are live there. -/
def ret (address : UInt64) (bindings : List (String × ValueId)) : Build OpId := do
  modify fun fragment =>
    { fragment with
      returns := bindings.map fun (name, value) => (name.map Char.toUpper, value) }
  addOp { address, code := .ret, inputs := bindings.map Prod.snd, output := none }

end Build

end VmRecovery.Ir

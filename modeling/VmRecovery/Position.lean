import VmRecovery.Hex

/-!
# Positions in the bytecode

A recovered instruction is identified by where its handler ran and by the bytecode pointer
that the handler was dispatched with. Native code outside the virtual machine has no bytecode
pointer, which is written as zero.
-/

namespace VmRecovery

/-- The native address of a handler occurrence paired with its bytecode pointer. -/
structure Position where
  /-- Address of the first native instruction of the occurrence. -/
  native : UInt64
  /-- Value of the bytecode pointer register at that moment. -/
  vm : UInt64
  deriving DecidableEq, Hashable, Repr, Inhabited

namespace Position

/-- Positions are ordered by native address, then by bytecode pointer. -/
instance : Ord Position where
  compare := compareLex (compareOn Position.native) (compareOn Position.vm)

instance : Std.TransOrd Position :=
  inferInstanceAs (Std.TransCmp (compareLex (compareOn Position.native) (compareOn Position.vm)))

/-- Only equal positions compare as equal, so a map over positions tells all of them apart. -/
instance : Std.LawfulEqOrd Position where
  eq_of_compare {left right} same := by
    have halves := Ordering.then_eq_eq.mp
      (show (compare left.native right.native).then (compare left.vm right.vm) = .eq from same)
    cases left
    cases right
    simp_all

/-- The position of native code. -/
def ofNative (address : UInt64) : Position :=
  { native := address, vm := 0 }

/-- A position without a bytecode pointer lies outside the virtual machine. -/
def isNative (position : Position) : Bool :=
  position.vm == 0

/-- Both halves in hexadecimal, separated by a colon. -/
def text (position : Position) : String :=
  hex position.native ++ ":" ++ hex position.vm

/-- The field-by-field form used in the operation notices, with decimal addresses. -/
def fieldText (position : Position) : String :=
  "VmAddress \x7b native: " ++ toString position.native.toNat ++
    ", vm: " ++ toString position.vm.toNat ++ " \x7d"

/-- Positions in ascending order, repetitions kept. -/
def sorted (positions : List Position) : List Position :=
  positions.mergeSort fun left right => (compare left right).isLE

end Position

end VmRecovery

import VmRecovery.Handler.Control
import VmRecovery.Proofs.Lists
import VmRecovery.Proofs.Table

/-!
# Slots of the VM stack

Which slot of the VM stack a bound value was read from is told by one operation
(`Fragment.ReadBy`), and the last binding for a slot names the register that the slot is restored
to (`Fragment.Restores`).
-/

namespace VmRecovery

namespace Ir.Fragment

/-- The operation that tells where a value was read from: the one that defines it, or the one that
defines its pointer if it is loaded through a pointer that does not flow in. -/
inductive ReadBy (fragment : Fragment) (value : ValueId) : Op → Prop where
  | itself {op : Op} (defined : fragment.definingOp? value = some op)
      (plain : ∀ pointer, op.code = .load → op.inputs.head? = some pointer →
        fragment.isInput pointer = true) :
      ReadBy fragment value op
  | pointer {load op : Op} {pointer : ValueId} (defined : fragment.definingOp? value = some load)
      (isLoad : load.code = .load) (through : load.inputs.head? = some pointer)
      (computed : fragment.isInput pointer = false)
      (pointed : fragment.definingOp? pointer = some op) :
      ReadBy fragment value op

/-- A value was read from a slot of the VM stack: from the top, or by a constant number of dwords
from there. -/
inductive ReadsSlot (fragment : Fragment) (value : ValueId) : UInt64 → Prop where
  | top {op : Op} (readBy : fragment.ReadBy value op) (isLoad : op.code = .load) :
      ReadsSlot fragment value 0
  | indexed {op : Op} {slot : UInt64} {index size : ValueId} (readBy : fragment.ReadBy value op)
      (isAdd : op.code = .ptrAdd) (second : op.inputs[1]? = some index)
      (third : op.inputs[2]? = some size) (isSlot : fragment.constantOf? index = some slot)
      (isDword : fragment.constantOf? size = some 4) :
      ReadsSlot fragment value slot

/-- The registers that the ten slots are restored to: of several that are bound to values from one
slot the one that is bound last. -/
structure Restores (fragment : Fragment) (restored : List String) : Prop where
  length : restored.length = 10
  last : ∀ slot name, restored[slot]? = some name →
    ∃ earlier value later, fragment.returns = earlier ++ (name, value) :: later ∧
      fragment.ReadsSlot value (.ofNat slot) ∧
      ∀ binding ∈ later, ¬fragment.ReadsSlot binding.2 (.ofNat slot)

variable {fragment : Fragment} {value : ValueId} {op : Op} {slot : UInt64}

/-- The program finds exactly the operation that tells where a value was read from. -/
theorem slotOp?_eq_some_iff : fragment.slotOp? value = some op ↔ fragment.ReadBy value op := by
  constructor
  · intro told
    simp only [slotOp?, Option.bind_eq_bind, Option.bind_eq_some_iff] at told
    obtain ⟨definition, defined, told⟩ := told
    split at told
    · rename_i isLoad
      split at told
      · rename_i pointer through
        split at told
        · rename_i flowsIn
          obtain rfl := Option.some.inj told
          refine .itself defined fun other _ isOther => ?_
          rwa [Option.some.inj (isOther.symm.trans through)]
        · rename_i computed
          exact .pointer defined isLoad through (Bool.eq_false_iff.mpr computed) told
      · rename_i missing
        obtain rfl := Option.some.inj told
        refine .itself defined fun pointer _ through => ?_
        rw [missing] at through
        cases through
    · rename_i noLoad
      obtain rfl := Option.some.inj told
      exact .itself defined fun _ isLoad => absurd isLoad noLoad
  · intro readBy
    cases readBy with
    | itself defined plain =>
        simp only [slotOp?, defined, Option.bind_eq_bind, Option.bind_some]
        split
        · rename_i isLoad
          split
          · rename_i pointer through
            rw [if_pos (plain pointer isLoad through)]
          · rfl
        · rfl
    | pointer defined isLoad through computed pointed =>
        simp [slotOp?, defined, isLoad, through, computed, pointed]

/-- The program finds exactly the slot that a value was read from. -/
theorem slotOf?_eq_some_iff :
    fragment.slotOf? value = some slot ↔ fragment.ReadsSlot value slot := by
  constructor
  · intro told
    simp only [slotOf?, Option.bind_eq_bind, Option.bind_eq_some_iff] at told
    obtain ⟨op, isOp, told⟩ := told
    have readBy := slotOp?_eq_some_iff.mp isOp
    split at told
    · rename_i isLoad
      obtain rfl := Option.some.inj told
      exact .top readBy isLoad
    · rename_i isAdd
      simp only [Option.ite_none_right_eq_some, Option.bind_eq_some_iff] at told
      obtain ⟨⟨size, third, isDword⟩, index, second, isSlot⟩ := told
      exact .indexed readBy isAdd second third isSlot isDword
    · cases told
  · intro reads
    cases reads with
    | top readBy isLoad => simp [slotOf?, slotOp?_eq_some_iff.mpr readBy, isLoad]
    | indexed readBy isAdd second third isSlot isDword =>
        simp [slotOf?, slotOp?_eq_some_iff.mpr readBy, isAdd, second, third, isSlot, isDword]

instance : Decidable (fragment.ReadsSlot value slot) :=
  decidable_of_iff _ slotOf?_eq_some_iff

/-- Whether a binding has a value from a slot. -/
theorem binding_beq_iff {binding : String × ValueId} :
    (fragment.slotOf? binding.2 == some slot) = true ↔ fragment.ReadsSlot binding.2 slot := by
  rw [beq_iff_eq, slotOf?_eq_some_iff]

/-- A binding restores its register from the slot that its value was read from. -/
theorem restoration?_eq_some_iff {binding : String × ValueId} {name : String} :
    fragment.restoration? binding = some (slot, name) ↔
      fragment.ReadsSlot binding.2 slot ∧ binding.1 = name := by
  simp only [restoration?, Option.map_eq_some_iff, slotOf?_eq_some_iff, Prod.mk.injEq]
  constructor
  · rintro ⟨_, reads, rfl, named⟩
    exact ⟨reads, named⟩
  · rintro ⟨reads, named⟩
    exact ⟨slot, reads, rfl, named⟩

/-- A binding restores nothing from a slot that its value was not read from. -/
theorem restoration?_ne_some_iff {binding : String × ValueId} :
    (∀ name, fragment.restoration? binding ≠ some (slot, name)) ↔
      ¬fragment.ReadsSlot binding.2 slot := by
  constructor
  · intro silent reads
    exact silent binding.1 (restoration?_eq_some_iff.mpr ⟨reads, rfl⟩)
  · intro silent name found
    exact silent (restoration?_eq_some_iff.mp found).1

/-- A slot restores the register that is bound last to a value from it. -/
theorem restoredFrom?_eq_some_iff {name : String} :
    fragment.restoredFrom? slot = some name ↔
      ∃ earlier value later, fragment.returns = earlier ++ (name, value) :: later ∧
        fragment.ReadsSlot value slot ∧
        ∀ binding ∈ later, ¬fragment.ReadsSlot binding.2 slot := by
  simp only [restoredFrom?, restorations, getElem?_tableOf_eq_some_iff, IsLast,
    restoration?_ne_some_iff, restoration?_eq_some_iff]
  constructor
  · rintro ⟨earlier, ⟨name, value⟩, later, split, ⟨reads, rfl⟩, others⟩
    exact ⟨earlier, value, later, split, reads, others⟩
  · rintro ⟨earlier, value, later, split, reads, others⟩
    exact ⟨earlier, (name, value), later, split, ⟨reads, rfl⟩, others⟩

/-- A slot is restored if any binding has a value from it. -/
theorem exists_restoredFrom?_iff :
    (∃ name, fragment.restoredFrom? slot = some name) ↔
      ∃ binding ∈ fragment.returns, fragment.ReadsSlot binding.2 slot := by
  simp only [restoredFrom?, restorations, getElem?_tableOf_eq_some_iff, exists_isLast_iff,
    restoration?_eq_some_iff, exists_and_left, exists_eq', and_true]

/-- The register of a slot is that of the last binding among those with a value from there. -/
theorem restoredFrom?_eq (slot : UInt64) :
    fragment.restoredFrom? slot =
      (fragment.returns.filter fun binding =>
        fragment.slotOf? binding.2 == some slot).getLast?.map Prod.fst := by
  ext name
  simp only [restoredFrom?_eq_some_iff, Option.map_eq_some_iff,
    getLast?_filter_eq_some_iff, binding_beq_iff, ← Bool.not_eq_true]
  constructor
  · rintro ⟨earlier, value, later, split, reads, others⟩
    exact ⟨(name, value), ⟨reads, earlier, later, split, others⟩, rfl⟩
  · rintro ⟨⟨name, value⟩, ⟨reads, earlier, later, split, others⟩, rfl⟩
    exact ⟨earlier, value, later, split, reads, others⟩

/-- The slots of an exit are the first ten. -/
theorem exitSlots_eq : exitSlots = (List.range 10).map UInt64.ofNat :=
  rfl

/-- The slots of an exit all restore a register exactly if the ending restores these registers. -/
theorem mapM_restoredFrom?_eq_some_iff {restored : List String} :
    exitSlots.mapM fragment.restoredFrom? = some restored ↔ fragment.Restores restored := by
  rw [exitSlots_eq, mapM_range_eq_some_iff]
  simp only [restoredFrom?_eq_some_iff]
  exact ⟨fun ⟨length, last⟩ => ⟨length, last⟩, fun restores => ⟨restores.length, restores.last⟩⟩

/-- An ending restores registers exactly if each of the ten slots is bound at all. -/
theorem exists_restores_iff :
    (∃ restored, fragment.Restores restored) ↔
      ∀ slot < 10, ∃ binding ∈ fragment.returns,
        fragment.ReadsSlot binding.2 (.ofNat slot) := by
  simp only [← mapM_restoredFrom?_eq_some_iff, exists_mapM_eq_some_iff, exitSlots_eq,
    List.forall_mem_map, List.mem_range, exists_restoredFrom?_iff]

/-- A binding with a value from one of the ten slots. -/
def IsRestoring (fragment : Fragment) (binding : String × ValueId) : Prop :=
  ∃ slot < 10, fragment.ReadsSlot binding.2 (.ofNat slot)

instance (binding : String × ValueId) : Decidable (fragment.IsRestoring binding) :=
  inferInstanceAs (Decidable (∃ slot < 10, fragment.ReadsSlot binding.2 (.ofNat slot)))

/-- The fragment with other bindings at its return. -/
def rebind (fragment : Fragment) (returns : List (String × ValueId)) : Fragment :=
  { fragment with returns }

/-- Which slot a value was read from does not depend on the bindings. -/
theorem restoredFrom?_rebind (returns : List (String × ValueId)) :
    (fragment.rebind returns).restoredFrom? slot =
      ((returns.filter fun binding => fragment.slotOf? binding.2 == some slot).getLast?).map
        Prod.fst :=
  restoredFrom?_eq slot

/-- The bindings for a slot are among those for the ten slots. -/
theorem filter_slot_eq {slot : Nat} (bound : slot < 10) (returns : List (String × ValueId)) :
    (returns.filter fun binding => fragment.slotOf? binding.2 == some (.ofNat slot)) =
      (returns.filter fun binding => fragment.IsRestoring binding).filter fun binding =>
        fragment.slotOf? binding.2 == some (.ofNat slot) := by
  rw [List.filter_filter]
  refine List.filter_congr fun binding _ => ?_
  rw [Bool.eq_iff_iff, Bool.and_eq_true, decide_eq_true_iff, binding_beq_iff]
  exact ⟨fun reads => ⟨reads, slot, bound, reads⟩, fun both => both.1⟩

/-- Bindings of other values than from the ten slots do not matter. -/
theorem mapM_restoredFrom?_rebind {returns : List (String × ValueId)}
    (same : (returns.filter fun binding => fragment.IsRestoring binding) =
      fragment.returns.filter fun binding => fragment.IsRestoring binding) :
    exitSlots.mapM (fragment.rebind returns).restoredFrom? =
      exitSlots.mapM fragment.restoredFrom? := by
  apply mapM_congr
  simp only [exitSlots_eq, List.forall_mem_map, List.mem_range]
  intro slot bound
  rw [restoredFrom?_rebind, filter_slot_eq bound, same, ← filter_slot_eq bound, restoredFrom?_eq]

end Ir.Fragment

end VmRecovery

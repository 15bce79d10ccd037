import Mathlib
import VmRecovery.Entry.Spill
import VmRecovery.Proofs.Lists
import VmRecovery.Proofs.Simulation.Handlers
import VmRecovery.Proofs.Table

/-!
# Recognition of the entry routine

What an entry routine has to do is said by two properties of single operations: one spills a value
to a slot (`Fragment.Spills`), the other reserves the save area (`Fragment.Reduces`). Among several
spills to a slot the last one counts (`Fragment.LastSpill`), among several bindings of the stack
pointer the first one that is reduced (`Fragment.FirstReservation`).

The number of slots in the table is looked at before any of them is, which makes no difference: a
table that has the eleven slots has at least eleven entries (`Fragment.savedContext?_eq_mapM`).
-/

namespace VmRecovery

/-- Where a value that is spilled comes from. -/
def SavedValue.location : SavedValue → Ir.Location
  | .constant value => .constant value
  | .register name => .register name

/-- The offset of a spilled slot from the incoming stack pointer. -/
def Entry.slotOffset (slot : Nat) : Int64 :=
  .ofInt (-4 * (slot + 1))

namespace Ir.Fragment

/-- An operation copies a constant or a register to a stack slot. -/
structure Spills (fragment : Fragment) (op : Op) (offset : Int64) (saved : SavedValue) : Prop where
  isCopy : op.code = .copy
  target : ∃ output, op.output = some output ∧
    (fragment.value? output).map Value.location = some (.stack offset)
  source : ∃ input, op.inputs.head? = some input ∧
    (fragment.value? input).map Value.location = some saved.location

/-- What the last operation that spills to a slot puts there. -/
def LastSpill (fragment : Fragment) (offset : Int64) (saved : SavedValue) : Prop :=
  ∃ earlier op later, fragment.ops.toList = earlier ++ op :: later ∧
    fragment.Spills op offset saved ∧ ∀ other ∈ later, ∀ value, ¬fragment.Spills other offset value

/-- An operation reduces the incoming stack pointer by a constant. -/
structure Reduces (fragment : Fragment) (op : Op) (delta : UInt64) : Prop where
  isSub : op.code = .ptrSub
  operands : ∃ base amount more, op.inputs = base :: amount :: more ∧
    fragment.isInput base = true ∧ fragment.registerOf? base = some "ESP" ∧
    fragment.constantOf? amount = some delta

/-- A value is the reduced stack pointer, or a copy of it. -/
inductive Reserves (fragment : Fragment) (value : ValueId) (delta : UInt64) : Prop where
  | itself {op : Op} (defined : fragment.definingOp? value = some op)
      (reduces : fragment.Reduces op delta) : Reserves fragment value delta
  | copied {copy op : Op} {original : ValueId} (defined : fragment.definingOp? value = some copy)
      (isCopy : copy.code = .copy) (first : copy.inputs.head? = some original)
      (computed : fragment.definingOp? original = some op)
      (reduces : fragment.Reduces op delta) : Reserves fragment value delta

/-- What the first binding of the stack pointer to a reduced value reserves. -/
def FirstReservation (fragment : Fragment) (delta : UInt64) : Prop :=
  ∃ earlier value later, fragment.returns = earlier ++ ("ESP", value) :: later ∧
    fragment.Reserves value delta ∧
    ∀ other amount, ("ESP", other) ∈ earlier → ¬fragment.Reserves other amount

/-- An entry tells what each of the eleven slots is left with, and where the save area lies. -/
structure Enters (fragment : Fragment) (stackPointer : UInt64) (entry : Entry) : Prop where
  length : entry.saved.length = 11
  spilled : ∀ slot saved, entry.saved[slot]? = some saved →
    fragment.LastSpill (Entry.slotOffset slot) saved
  reserved : ∃ delta, fragment.FirstReservation delta ∧
    entry.saveArea.toNat = (stackPointer.toNat + delta.toNat) % 2 ^ 32

variable {fragment : Fragment} {op : Op} {offset : Int64} {saved : SavedValue}
  {value : ValueId} {delta : UInt64}

/-! Spills. -/

/-- A saved value is read off the place that a value lives in. -/
theorem savedValue?_eq_some_iff :
    fragment.savedValue? value = some saved ↔
      (fragment.value? value).map Value.location = some saved.location := by
  unfold savedValue?
  cases (fragment.value? value).map Value.location with
  | none => simp
  | some location => cases location <;> cases saved <;> simp [SavedValue.location]

/-- A spill is found exactly where an operation spills. -/
theorem spill?_eq_some_iff :
    fragment.spill? op = some (offset, saved) ↔ fragment.Spills op offset saved := by
  constructor
  · intro found
    simp only [spill?, Option.ite_none_right_eq_some, Option.bind_eq_bind,
      Option.bind_eq_some_iff] at found
    obtain ⟨isCopy, output, target, input, source, found⟩ := found
    split at found
    · rename_i slot isSlot
      obtain ⟨value, isSaved, same⟩ := Option.map_eq_some_iff.mp found
      obtain ⟨rfl, rfl⟩ := Prod.mk.inj same
      exact ⟨isCopy, ⟨output, target, isSlot⟩, input, source, savedValue?_eq_some_iff.mp isSaved⟩
    · cases found
  · rintro ⟨isCopy, ⟨output, target, isSlot⟩, input, source, isSaved⟩
    simp [spill?, isCopy, target, source, isSlot, savedValue?_eq_some_iff.mpr isSaved]

/-- The table of spills holds what each slot is left with. -/
theorem getElem?_spills :
    fragment.spills[offset]? = some saved ↔ fragment.LastSpill offset saved := by
  simp only [spills, getElem?_tableOf_eq_some_iff, IsLast, LastSpill, ne_eq, spill?_eq_some_iff]

/-- A slot is left with something if anything is spilled to it. -/
theorem exists_lastSpill_iff :
    (∃ saved, fragment.LastSpill offset saved) ↔
      ∃ op ∈ fragment.ops.toList, ∃ saved, fragment.Spills op offset saved := by
  simp only [← getElem?_spills, spills, getElem?_tableOf_eq_some_iff, exists_isLast_iff,
    spill?_eq_some_iff]

/-! The spilled context. -/

/-- The offsets of the table are those of the eleven slots. -/
theorem offsets_eq :
    Entry.offsets = (List.range 11).map Entry.slotOffset := by
  decide

/-- No two slots have the same offset. -/
theorem nodup_offsets : Entry.offsets.Nodup := by
  decide

/-- A table that has the eleven slots has eleven entries at least, so that counting them first
makes no difference. -/
theorem savedContext?_eq_mapM :
    fragment.savedContext? = Entry.offsets.mapM fun offset => fragment.spills[offset]? := by
  unfold savedContext?
  split
  · rename_i few
    symm
    rw [Option.eq_none_iff_forall_ne_some]
    intro context found
    have enough : Entry.slotCount ≤ fragment.spills.size :=
      length_le_size nodup_offsets (exists_mapM_eq_some_iff.mp ⟨context, found⟩)
    exact absurd enough (Nat.not_le.mpr few)
  · rfl

/-- The saved context lists what each of the eleven slots is left with. -/
theorem savedContext?_eq_some_iff {context : List SavedValue} :
    fragment.savedContext? = some context ↔
      context.length = 11 ∧ ∀ slot saved, context[slot]? = some saved →
        fragment.LastSpill (Entry.slotOffset slot) saved := by
  simp only [savedContext?_eq_mapM, offsets_eq, mapM_range_eq_some_iff, getElem?_spills]

/-- There is a saved context exactly if something is spilled to each of the eleven slots. -/
theorem exists_savedContext?_iff :
    (∃ context, fragment.savedContext? = some context) ↔
      ∀ slot < 11, ∃ op ∈ fragment.ops.toList, ∃ saved,
        fragment.Spills op (Entry.slotOffset slot) saved := by
  simp only [savedContext?_eq_mapM, exists_mapM_eq_some_iff, offsets_eq, List.forall_mem_map,
    List.mem_range, getElem?_spills, exists_lastSpill_iff]

/-! The reservation. -/

/-- A reservation is found exactly where an operation reduces the incoming stack pointer. -/
theorem reservation?_eq_some_iff :
    fragment.reservation? op = some delta ↔ fragment.Reduces op delta := by
  constructor
  · intro found
    unfold reservation? at found
    split at found
    · rename_i base amount more isSub operands
      simp only [Option.ite_none_right_eq_some, Bool.and_eq_true, beq_iff_eq] at found
      obtain ⟨⟨flowsIn, isStack⟩, isDelta⟩ := found
      exact ⟨isSub, base, amount, more, operands, flowsIn, isStack, isDelta⟩
    · cases found
  · rintro ⟨isSub, base, amount, more, operands, flowsIn, isStack, isDelta⟩
    simp [reservation?, isSub, operands, flowsIn, isStack, isDelta]

/-- A copy reduces nothing. -/
theorem Reduces.not_copy (reduces : fragment.Reduces op delta) : op.code ≠ .copy := by
  rw [reduces.isSub]
  decide

/-- Behind a value, or behind the copy that it is, the reservation is found that the value stands
for. -/
theorem bind_reservation?_eq_some_iff :
    (fragment.opBehindCopy? value).bind fragment.reservation? = some delta ↔
      fragment.Reserves value delta := by
  simp only [Option.bind_eq_some_iff, reservation?_eq_some_iff]
  constructor
  · rintro ⟨op, behind, reduces⟩
    simp only [opBehindCopy?, Option.bind_eq_bind, Option.bind_eq_some_iff] at behind
    obtain ⟨definition, defined, behind⟩ := behind
    split at behind
    · rename_i isCopy
      obtain ⟨original, first, computed⟩ := Option.bind_eq_some_iff.mp behind
      exact .copied defined isCopy first computed reduces
    · obtain rfl := Option.some.inj behind
      exact .itself defined reduces
  · intro reserves
    cases reserves with
    | itself defined reduces =>
        exact ⟨_, by simp [opBehindCopy?, defined, reduces.not_copy], reduces⟩
    | copied defined isCopy first computed reduces =>
        exact ⟨_, by simp [opBehindCopy?, defined, isCopy, first, computed], reduces⟩

/-- The bindings are searched for the first reduced stack pointer. -/
theorem returnedReservation?_eq_some_iff :
    fragment.returnedReservation? = some delta ↔ fragment.FirstReservation delta := by
  simp only [returnedReservation?, List.findSome?_eq_some_iff, beq_iff_eq,
    Option.ite_none_right_eq_some, bind_reservation?_eq_some_iff,
    Option.eq_none_iff_forall_ne_some, ne_eq, not_and]
  constructor
  · rintro ⟨earlier, ⟨name, value⟩, later, split, ⟨rfl, reserves⟩, others⟩
    exact ⟨earlier, value, later, split, reserves, fun other amount member =>
      others (_, other) member amount rfl⟩
  · rintro ⟨earlier, value, later, split, reserves, others⟩
    refine ⟨earlier, ("ESP", value), later, split, ⟨rfl, reserves⟩, ?_⟩
    rintro ⟨name, other⟩ member amount rfl
    exact others other amount member

/-- There is a reservation exactly if some binding of the stack pointer is to a reduced one. -/
theorem exists_returnedReservation?_iff :
    (∃ delta, fragment.returnedReservation? = some delta) ↔
      ∃ value delta, ("ESP", value) ∈ fragment.returns ∧ fragment.Reserves value delta := by
  simp only [← Option.isSome_iff_exists, returnedReservation?, List.findSome?_isSome_iff]
  simp only [Option.isSome_iff_exists, beq_iff_eq, Option.ite_none_right_eq_some,
    bind_reservation?_eq_some_iff]
  constructor
  · rintro ⟨⟨name, value⟩, member, delta, rfl, reserves⟩
    exact ⟨value, delta, member, reserves⟩
  · rintro ⟨value, delta, member, reserves⟩
    exact ⟨("ESP", value), member, delta, rfl, reserves⟩

/-! The entry. -/

/-- The save area is computed in 32 bits, whatever the width of the stack pointer. -/
theorem toNat_saveArea (stackPointer delta : UInt64) :
    (stackPointer.toUInt32 + delta.toUInt32).toUInt64.toNat =
      (stackPointer.toNat + delta.toNat) % 2 ^ 32 := by
  simp [Nat.add_mod]

/-- An entry is found where a context and a reservation are, with the save area computed from the
latter. -/
theorem entry?_eq_some_iff {stackPointer : UInt64} {entry : Entry} :
    fragment.entry? stackPointer = some entry ↔
      fragment.savedContext? = some entry.saved ∧
        ∃ delta, fragment.returnedReservation? = some delta ∧
          (stackPointer.toUInt32 + delta.toUInt32).toUInt64 = entry.saveArea := by
  obtain ⟨context, area⟩ := entry
  simp only [saveArea?, entry?, Option.bind_eq_bind, Option.pure_def, Option.bind_eq_some_iff,
    Option.map_eq_some_iff, Option.some.injEq, Entry.mk.injEq]
  constructor
  · rintro ⟨saved, isSaved, saveArea, reserved, rfl, rfl⟩
    exact ⟨isSaved, reserved⟩
  · rintro ⟨isSaved, reserved⟩
    exact ⟨context, isSaved, area, reserved, rfl, rfl⟩

/-- A fragment is recognised as an entry routine exactly if a constant or a register is copied to
each of the eleven slots below the incoming stack pointer, and the stack pointer at the return is
the incoming one less a constant. What is recognised is determined by the last copy to each slot and
by the first such binding of the stack pointer, in 32-bit arithmetic. -/
theorem entry_recognised_exactly (fragment : Fragment) (stackPointer : UInt64) :
    ((∃ entry, fragment.entry? stackPointer = some entry) ↔
      (∀ slot < 11, ∃ op ∈ fragment.ops.toList, ∃ saved,
        fragment.Spills op (Entry.slotOffset slot) saved) ∧
      ∃ value delta, ("ESP", value) ∈ fragment.returns ∧ fragment.Reserves value delta) ∧
    ∀ entry, fragment.entry? stackPointer = some entry ↔ fragment.Enters stackPointer entry := by
  constructor
  · rw [← exists_savedContext?_iff, ← exists_returnedReservation?_iff]
    simp only [entry?_eq_some_iff]
    constructor
    · rintro ⟨entry, isSaved, delta, reserved, -⟩
      exact ⟨⟨_, isSaved⟩, delta, reserved⟩
    · rintro ⟨⟨context, isSaved⟩, delta, reserved⟩
      exact ⟨⟨context, _⟩, isSaved, delta, reserved, rfl⟩
  · intro entry
    simp only [entry?_eq_some_iff, savedContext?_eq_some_iff, returnedReservation?_eq_some_iff,
      ← UInt64.toNat_inj, toNat_saveArea]
    constructor
    · rintro ⟨⟨length, spilled⟩, delta, reserved, isArea⟩
      exact ⟨length, spilled, delta, reserved, isArea.symm⟩
    · rintro ⟨length, spilled, delta, reserved, isArea⟩
      exact ⟨⟨length, spilled⟩, delta, reserved, isArea.symm⟩

section Witness

open Simulation

/-- An entry routine that writes its first slot twice and a slot more than it needs, and that
returns a copy of the reduced stack pointer behind the incoming one. -/
def crowdedEntry : Fragment :=
  let routine := entryRoutine 0x401000 0xffffff00
  { routine with
    values := routine.values ++
      #[⟨.constant 7, 4, none⟩, ⟨.stack (-4), 4, some 13⟩, ⟨.stack (-48), 4, some 14⟩,
        ⟨.register "ESP", 4, some 15⟩]
    ops := routine.ops ++
      #[⟨0x401000, .copy, [15], some 16⟩, ⟨0x401000, .copy, [15], some 17⟩,
        ⟨0x401000, .copy, [14], some 18⟩]
    returns := [("ESP", 1), ("ESP", 18)] }

/-- The second value of the first slot is saved, and the copy is looked through. -/
theorem crowdedEntry_recognised :
    crowdedEntry.Enters 0x9000
      { saved := .constant 7 :: List.replicate 10 (.register "EAX"), saveArea := 0x8f00 } :=
  ((entry_recognised_exactly crowdedEntry 0x9000).2 _).mp (by cbv)

end Witness

end Ir.Fragment

end VmRecovery

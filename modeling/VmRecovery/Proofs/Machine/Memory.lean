import Mathlib
import VmRecovery.Machine.Snapshot

/-!
# Forcing a stack slot

A dword takes four bytes of memory, also where its addresses wrap around. Forcing the slot that a
register points to therefore changes four bytes and nothing else, and it is possible for every
name that stands for a register (`exists_steered`).
-/

namespace VmRecovery.Machine

namespace Memory

variable {memory : Memory} {slot address : UInt64} {index : Nat}

theorem getElem?_writeDword (memory : Memory) (slot address : UInt64) (dword : UInt32) :
    (memory.writeDword slot dword)[address]? =
      if slot + 3 = address then some (dword >>> 24).toUInt8
      else if slot + 2 = address then some (dword >>> 16).toUInt8
      else if slot + 1 = address then some (dword >>> 8).toUInt8
      else if slot = address then some dword.toUInt8
      else memory[address]? := by
  simp [writeDword, Std.TreeMap.getElem?_insert]

/-- The bytes of the lowest dword of a value, lowest byte first. -/
theorem getElem?_writeDword_inside (memory : Memory) (slot value : UInt64) (inside : index < 4) :
    (memory.writeDword slot value.toUInt32)[slot + UInt64.ofNat index]? =
      some (UInt8.ofNat (value.toNat % 2 ^ 32 / 256 ^ index)) := by
  rw [getElem?_writeDword]
  interval_cases index <;>
    simp [← UInt8.toNat_inj, UInt32.toNat_shiftRight, Nat.shiftRight_eq_div_pow]

/-- Other bytes stay as they are. -/
theorem getElem?_writeDword_outside {dword : UInt32}
    (outside : ∀ index < 4, address ≠ slot + UInt64.ofNat index) :
    (memory.writeDword slot dword)[address]? = memory[address]? := by
  have first : slot ≠ address := fun same => outside 0 (by decide) (by simp [same])
  have second : slot + 1 ≠ address := fun same => outside 1 (by decide) same.symm
  have third : slot + 2 ≠ address := fun same => outside 2 (by decide) same.symm
  have fourth : slot + 3 ≠ address := fun same => outside 3 (by decide) same.symm
  rw [getElem?_writeDword, if_neg fourth, if_neg third, if_neg second, if_neg first]

end Memory

namespace Snapshot

variable {register : String}

/-- A snapshot is as another one before it, except for the four bytes from where a register points:
they hold the lowest dword of a target, lowest byte first. -/
structure Steered (before : Snapshot) (register : String) (target : UInt64) (steered : Snapshot) :
    Prop where
  sameRegisters : steered.registers = before.registers
  slot : ∃ slot, before.registers.read register = some slot ∧
    (∀ index < 4, steered.memory[slot + UInt64.ofNat index]? =
      some (UInt8.ofNat (target.toNat % 2 ^ 32 / 256 ^ index))) ∧
    ∀ address, (∀ index < 4, address ≠ slot + UInt64.ofNat index) →
      steered.memory[address]? = before.memory[address]?

/-- The slot of a register that is known can be forced. -/
theorem exists_steered (before : Snapshot) (known : (View.ofName? register).isSome)
    (target : UInt64) :
    ∃ steered, before.forceSlot register target = some steered ∧
      before.Steered register target steered := by
  obtain ⟨view, isView⟩ := Option.isSome_iff_exists.mp known
  let slot := (view.extract (before.registers.get view.register)).toUInt64
  have points : before.registers.read register = some slot := by
    rw [Registers.read, isView]
    rfl
  refine ⟨before.writeDword slot target.toUInt32, by rw [forceSlot, points]; rfl, rfl, slot, points,
    ?_, ?_⟩
  · intro index inside
    exact Memory.getElem?_writeDword_inside before.memory slot target inside
  · intro address outside
    exact Memory.getElem?_writeDword_outside outside

end Snapshot

end VmRecovery.Machine

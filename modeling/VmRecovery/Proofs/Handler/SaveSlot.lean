import Mathlib
import VmRecovery.Proofs.Handler.Operation
import VmRecovery.Proofs.Native.Operand

/-!
# Offsets of save slots

A push or a pop of a virtual register accesses its slot through one memory operand, and the offset
of the slot is counted from the save area modulo 2³². Slots below the save area and displacements in
either representation therefore come to the offset that the exact address asks for, and two accesses
have the same offset only if they meet at one address (`slot_offset_exact`).
-/

namespace VmRecovery.Handler

open Machine Native Trace

variable {pattern : Pattern} {occurrence : Occurrence} {selection : Selection} {decoder : Decoder}
  {saveArea offset address : UInt64} {step : Step} {memory : MemoryOperand}

/-- The offset of an address is the number below 2³² that leads there from the save area, up to
multiples of 2³². -/
theorem eq_slotOffset_iff :
    offset = slotOffset saveArea address ↔
      offset.toNat < 2 ^ 32 ∧
        (saveArea.toNat + offset.toNat : Int) ≡ address.toNat [ZMOD 2 ^ 32] := by
  have leads : (saveArea.toNat + (slotOffset saveArea address).toNat : Int) ≡ address.toNat
      [ZMOD 2 ^ 32] := by
    have difference := modEq_sub address.toUInt32 saveArea.toUInt32
    have sum := (modEq_toUInt32 saveArea).symm.add difference
    rw [add_sub_cancel] at sum
    exact sum.trans (modEq_toUInt32 address)
  have small : (slotOffset saveArea address).toNat < 2 ^ 32 := UInt32.toNat_lt _
  constructor
  · rintro rfl
    exact ⟨small, leads⟩
  · rintro ⟨small', leads'⟩
    apply UInt64.toNat_inj.mp
    apply eq_of_modEq small' small
    exact Int.ModEq.add_left_cancel' _ (leads'.trans leads.symm)

namespace Pattern

/-- A pattern reads an occurrence as a push or a pop of the virtual register at an offset. -/
def ReadsSlot (pattern : Pattern) (occurrence : Occurrence) (selection : Selection)
    (decoder : Decoder) (saveArea offset : UInt64) : Prop :=
  ∃ instruction, pattern.instruction? occurrence selection decoder saveArea = some instruction ∧
    (instruction.operation = .pushReg offset ∨
      ∃ pair, instruction.operation = .popReg offset pair)

/-- The memory operand through which the slot of a virtual register is accessed, with the step whose
registers count: the source of the load that pushes, or the target of the move that pops. -/
inductive Accesses (occurrence : Occurrence) (decoder : Decoder) :
    Pattern → Step → MemoryOperand → Prop where
  | push {size width : UInt8} {load : UInt64} {step : Step} {instruction : Native.Instruction}
      {memory : MemoryOperand} (executed : occurrence.stepAt? load = some step)
      (decoded : decoder.decode load = some instruction)
      (operand : instruction.memoryOperand? 1 = some (memory, width)) :
      Accesses occurrence decoder (.pushReg size load) step memory
  | pop {size width : UInt8} {store : UInt64} {pair : RegisterPair} {step : Step}
      {instruction : Native.Instruction} {memory : MemoryOperand}
      (executed : occurrence.stepAt? store = some step)
      (decoded : decoder.decode store = some instruction)
      (moves : isMove instruction.mnemonic = true)
      (operand : instruction.memoryOperand? 0 = some (memory, width)) :
      Accesses occurrence decoder (.popReg size store pair) step memory

theorem anchored?_eq_some_iff {anchor : UInt64} {instruction : Native.Instruction} :
    anchored? occurrence decoder anchor = some (step, instruction) ↔
      occurrence.stepAt? anchor = some step ∧ decoder.decode anchor = some instruction := by
  simp [anchored?, Option.bind_eq_some_iff]

theorem slotAt?_eq_some_iff {place : Nat} {instruction : Native.Instruction} :
    slotAt? place saveArea step instruction = some offset ↔
      ∃ memory width address, instruction.memoryOperand? place = some (memory, width) ∧
        memory.effectiveAddress step.registers = some address ∧
        offset = slotOffset saveArea address := by
  simp only [slotAt?, Option.bind_eq_bind, Option.bind_eq_some_iff, Option.pure_def,
    Option.some.injEq, Prod.exists, exists_and_left, @eq_comm _ _ offset]

theorem popReg_operation?_iff {size : UInt8} {store : UInt64} {pair : RegisterPair}
    {operation : Operation} :
    (popReg size store pair).operation? occurrence decoder saveArea = some operation ↔
      ∃ step memory address, Accesses occurrence decoder (popReg size store pair) step memory ∧
        memory.effectiveAddress step.registers = some address ∧
        operation = .popReg (slotOffset saveArea address) pair := by
  simp only [operation?, Option.bind_eq_bind, Option.bind_eq_some_iff, Prod.exists,
    anchored?_eq_some_iff]
  constructor
  · rintro ⟨step, instruction, ⟨executed, decoded⟩, performed⟩
    split at performed
    · rename_i moves
      obtain ⟨offset, found, same⟩ := Option.bind_eq_some_iff.mp performed
      obtain ⟨memory, width, address, operand, effective, rfl⟩ := slotAt?_eq_some_iff.mp found
      exact ⟨step, memory, address, .pop executed decoded moves operand, effective,
        (Option.some.inj same).symm⟩
    · cases performed
  · rintro ⟨step, memory, address, accesses, effective, rfl⟩
    cases accesses with
    | @pop _ width _ _ _ instruction _ executed decoded moves operand =>
        have found : slotAt? 0 saveArea step instruction = some (slotOffset saveArea address) :=
          slotAt?_eq_some_iff.mpr ⟨memory, width, address, operand, effective, rfl⟩
        refine ⟨step, instruction, ⟨executed, decoded⟩, ?_⟩
        rw [if_pos moves, found]
        rfl

theorem pushReg_operation?_iff {size : UInt8} {load : UInt64} {operation : Operation} :
    (pushReg size load).operation? occurrence decoder saveArea = some operation ↔
      ∃ step memory address, Accesses occurrence decoder (pushReg size load) step memory ∧
        memory.effectiveAddress step.registers = some address ∧
        operation = .pushReg (slotOffset saveArea address) := by
  simp only [operation?, Option.bind_eq_bind, Option.bind_eq_some_iff, Prod.exists,
    anchored?_eq_some_iff, slotAt?_eq_some_iff]
  constructor
  · rintro ⟨step, instruction, ⟨executed, decoded⟩, offset,
      ⟨memory, width, address, operand, effective, rfl⟩, same⟩
    exact ⟨step, memory, address, .push executed decoded operand, effective,
      (Option.some.inj same).symm⟩
  · rintro ⟨step, memory, address, accesses, effective, rfl⟩
    cases accesses with
    | push executed decoded operand =>
        exact ⟨step, _, ⟨executed, decoded⟩, _, ⟨memory, _, address, operand, effective, rfl⟩, rfl⟩

/-- A pattern reads a slot exactly if it fits the selection and makes an access at an address that
is known. -/
theorem readsSlot_iff :
    pattern.ReadsSlot occurrence selection decoder saveArea offset ↔
      pattern.fits selection = true ∧ ∃ step memory address,
        Accesses occurrence decoder pattern step memory ∧
        memory.effectiveAddress step.registers = some address ∧
        offset = slotOffset saveArea address := by
  have performs : pattern.ReadsSlot occurrence selection decoder saveArea offset ↔
      pattern.fits selection = true ∧ ∃ operation,
        pattern.operation? occurrence decoder saveArea = some operation ∧
        (operation = .pushReg offset ∨ ∃ pair, operation = .popReg offset pair) := by
    rw [ReadsSlot]
    by_cases fits : pattern.fits selection = true
    · simp [instruction?, fits]
    · simp [instruction?, fits]
  rw [performs, and_congr_right_iff]
  intro _
  constructor
  · rintro ⟨operation, performed, isSlot⟩
    rcases moves_of_operation? performed isSlot with ⟨size, load, rfl⟩ | ⟨size, store, pair, rfl⟩
    · obtain ⟨step, memory, address, accesses, effective, rfl⟩ :=
        pushReg_operation?_iff.mp performed
      exact ⟨step, memory, address, accesses, effective, by simpa [eq_comm] using isSlot⟩
    · obtain ⟨step, memory, address, accesses, effective, rfl⟩ :=
        popReg_operation?_iff.mp performed
      exact ⟨step, memory, address, accesses, effective, by simpa [eq_comm] using isSlot⟩
  · rintro ⟨step, memory, address, accesses, effective, rfl⟩
    cases pattern with
    | popReg size store pair =>
        exact ⟨_, popReg_operation?_iff.mpr ⟨step, memory, address, accesses, effective, rfl⟩,
          .inr ⟨pair, rfl⟩⟩
    | pushReg size load =>
        exact ⟨_, pushReg_operation?_iff.mpr ⟨step, memory, address, accesses, effective, rfl⟩,
          .inl rfl⟩
    | _ => cases accesses

/-- A pattern makes one access. -/
theorem Accesses.unique {step' : Step} {memory' : MemoryOperand}
    (first : Accesses occurrence decoder pattern step memory)
    (second : Accesses occurrence decoder pattern step' memory') :
    step = step' ∧ memory = memory' := by
  cases first with
  | push executed decoded operand =>
      cases second with
      | push executed' decoded' operand' => simp_all
  | pop executed decoded moves operand =>
      cases second with
      | pop executed' decoded' moves' operand' => simp_all

end Pattern

/-- A push or a pop that a pattern reads off an occurrence, with the access to its slot. -/
structure SlotReading (saveArea : UInt64) where
  pattern : Pattern
  occurrence : Occurrence
  selection : Selection
  decoder : Decoder
  offset : UInt64
  step : Step
  memory : MemoryOperand
  reads : pattern.ReadsSlot occurrence selection decoder saveArea offset
  accesses : Pattern.Accesses occurrence decoder pattern step memory

namespace SlotReading

/-- The address that is accessed. -/
def address? (reading : SlotReading saveArea) : Option UInt64 :=
  reading.memory.effectiveAddress reading.step.registers

theorem exists_address (reading : SlotReading saveArea) :
    ∃ address, reading.address? = some address ∧ reading.offset = slotOffset saveArea address := by
  obtain ⟨-, step, memory, address, accesses, effective, isOffset⟩ :=
    Pattern.readsSlot_iff.mp reading.reads
  obtain ⟨rfl, rfl⟩ := reading.accesses.unique accesses
  exact ⟨address, effective, isOffset⟩

end SlotReading

/-- The offset from a save area tells effective addresses apart. -/
theorem slotOffset_eq_iff {memory memory' : MemoryOperand} {registers registers' : Registers}
    {address address' : UInt64} (effective : memory.effectiveAddress registers = some address)
    (effective' : memory'.effectiveAddress registers' = some address') :
    slotOffset saveArea address = slotOffset saveArea address' ↔ address = address' := by
  constructor
  · intro same
    obtain ⟨-, -, small, -⟩ := MemoryOperand.effectiveAddress_eq_some_iff.mp effective
    obtain ⟨-, -, small', -⟩ := MemoryOperand.effectiveAddress_eq_some_iff.mp effective'
    obtain ⟨-, leads⟩ := eq_slotOffset_iff.mp (Eq.refl (slotOffset saveArea address))
    obtain ⟨-, leads'⟩ := eq_slotOffset_iff.mp same
    apply UInt64.toNat_inj.mp
    exact eq_of_modEq small small' (leads.symm.trans leads')
  · rintro rfl
    rfl

/-- The offset of an effective address leads to the exact address. -/
theorem exists_slotOffset_iff {registers : Registers} :
    (∃ address, memory.effectiveAddress registers = some address ∧
        offset = slotOffset saveArea address) ↔
      ∃ total, memory.exactAddress? registers = some total ∧ offset.toNat < 2 ^ 32 ∧
        (saveArea.toNat + offset.toNat : Int) ≡ total [ZMOD 2 ^ 32] := by
  constructor
  · rintro ⟨address, effective, isOffset⟩
    obtain ⟨total, isTotal, -, same⟩ := MemoryOperand.effectiveAddress_eq_some_iff.mp effective
    obtain ⟨small, leads⟩ := eq_slotOffset_iff.mp isOffset
    exact ⟨total, isTotal, small, leads.trans same⟩
  · rintro ⟨total, isTotal, small, leads⟩
    obtain ⟨address, effective⟩ := MemoryOperand.exists_effectiveAddress isTotal
    obtain ⟨total', isTotal', -, same⟩ := MemoryOperand.effectiveAddress_eq_some_iff.mp effective
    obtain rfl : total = total' := Option.some.inj (isTotal.symm.trans isTotal')
    exact ⟨address, effective, eq_slotOffset_iff.mpr ⟨small, leads.trans same.symm⟩⟩

/-- A pattern reads an occurrence as a push or a pop at an offset exactly if it fits the selection
and makes an access whose registers are known, and the offset is below 2³² and leads from the save
area to the exact address of the access modulo 2³². Two readings with one save area have the same
offset exactly if they access the same 32-bit address. An effective address counts the displacement
up to multiples of 2³², and is missing exactly if the operand names a register that is not known. -/
theorem slot_offset_exact :
    (∀ (pattern : Pattern) occurrence selection decoder saveArea offset,
      pattern.ReadsSlot occurrence selection decoder saveArea offset ↔
        pattern.fits selection = true ∧ ∃ step memory total,
          Pattern.Accesses occurrence decoder pattern step memory ∧
          memory.exactAddress? step.registers = some total ∧ offset.toNat < 2 ^ 32 ∧
          (saveArea.toNat + offset.toNat : Int) ≡ total [ZMOD 2 ^ 32]) ∧
      (∀ saveArea (first second : SlotReading saveArea), ∃ address address',
        first.address? = some address ∧ second.address? = some address' ∧
          (first.offset = second.offset ↔ address = address')) ∧
      (∀ (memory : MemoryOperand) registers turns,
        (memory.withDisplacement
            (Int64.ofInt (memory.displacement.toInt + turns * 2 ^ 32))).effectiveAddress registers =
          memory.effectiveAddress registers) ∧
      ∀ (memory : MemoryOperand) registers,
        memory.effectiveAddress registers = none ↔
          ∃ name, (memory.base = some name ∨ memory.index = some name) ∧
            registers.read name = none := by
  refine ⟨?_, ?_, MemoryOperand.effectiveAddress_shift,
    fun memory registers => MemoryOperand.effectiveAddress_eq_none_iff⟩
  · intro pattern occurrence selection decoder saveArea offset
    simp only [Pattern.readsSlot_iff, exists_and_left, exists_slotOffset_iff]
  · intro saveArea first second
    obtain ⟨address, effective, isOffset⟩ := first.exists_address
    obtain ⟨address', effective', isOffset'⟩ := second.exists_address
    refine ⟨address, address', effective, effective', ?_⟩
    rw [isOffset, isOffset']
    exact slotOffset_eq_iff effective effective'

section Witness

/-- The operand `[esp+ecx-8]`. -/
def belowOperand : MemoryOperand :=
  ((MemoryOperand.based "ESP").withIndex "ECX" 0).withDisplacement (-8)

/-- A read through `[esp+ecx-8]`. -/
def belowRead : Native.Instruction where
  address := 0x2004
  mnemonic := .mov
  operands := [⟨.register "EAX", 4⟩, ⟨.memory belowOperand, 4⟩]

/-- The read is executed with `esp` at `0x8fd0` and `ecx` at 4. -/
def belowStep : Step where
  address := 0x2004
  registers := { esp := 0x8fd0, ecx := 4 }

/-- A write through `[ebx]`. -/
def belowWrite : Native.Instruction where
  address := 0x3008
  mnemonic := .mov
  operands := [⟨.memory (.based "EBX"), 4⟩, ⟨.register "EAX", 4⟩]

/-- The write is executed with `ebx` at `0x8fcc`. -/
def belowWriteStep : Step where
  address := 0x3008
  registers := { ebx := 0x8fcc }

/-- The decoder of both instructions. -/
def belowDecoder : Decoder :=
  (Table.ofList [belowRead, belowWrite]).decoder

/-- A push of the virtual register 4 bytes below the save area at `0x8fd0`. -/
def belowPush : SlotReading 0x8fd0 where
  pattern := .pushReg 4 0x2004
  occurrence := ⟨[belowStep]⟩
  selection := .none
  decoder := belowDecoder
  offset := 0xfffffffc
  step := belowStep
  memory := belowOperand
  accesses := .push rfl rfl rfl
  reads :=
    Pattern.readsSlot_iff.mpr
      ⟨rfl, belowStep, belowOperand, 0x8fcc, .push rfl rfl rfl, by cbv, by decide⟩

/-- A pop to the same virtual register through another register. -/
def belowPop : SlotReading 0x8fd0 where
  pattern := .popReg 4 0x3008 { code := "ESI", stack := "EBP" }
  occurrence := ⟨[belowWriteStep]⟩
  selection := .none
  decoder := belowDecoder
  offset := 0xfffffffc
  step := belowWriteStep
  memory := .based "EBX"
  accesses := .pop rfl rfl rfl rfl
  reads :=
    Pattern.readsSlot_iff.mpr
      ⟨rfl, belowWriteStep, .based "EBX", 0x8fcc, .pop rfl rfl rfl rfl, by cbv, by decide⟩

/-- The slot lies 4 bytes below the save area. A push and a pop that come to it at one address in
different ways have the same offset. -/
theorem push_below_saveArea :
    (Pattern.pushReg 4 0x2004).ReadsSlot ⟨[belowStep]⟩ .none belowDecoder 0x8fd0 0xfffffffc ∧
      belowPush.address? = some 0x8fcc ∧ belowPop.address? = some 0x8fcc ∧
      belowPush.offset = belowPop.offset := by
  have pushed : belowPush.address? = some 0x8fcc := by cbv
  have popped : belowPop.address? = some 0x8fcc := by cbv
  refine ⟨?_, pushed, popped, ?_⟩
  · apply (slot_offset_exact.1 _ _ _ _ _ _).mpr
    refine ⟨rfl, belowStep, _, 0x8fcc, .push rfl rfl rfl, ?_, by decide, by decide⟩
    cbv
  · obtain ⟨address, address', isAddress, isAddress', same⟩ :=
      slot_offset_exact.2.1 0x8fd0 belowPush belowPop
    obtain rfl := Option.some.inj (isAddress.symm.trans pushed)
    obtain rfl := Option.some.inj (isAddress'.symm.trans popped)
    exact same.mpr rfl

end Witness

end VmRecovery.Handler

import VmRecovery.Handler.Reading
import VmRecovery.Proofs.Handler.Relocation

/-!
# Occurrences of a handler at other addresses

An occurrence of a relocated handler sees the same registers at other addresses. An operand is
read off one step and the instruction that the step executed, both found by the recorded address.
As different addresses stay different, that is the step at the old place, and the operands are
the same (`Pattern.operation?_relocate`).
-/

namespace VmRecovery

open Handler Native Trace

variable {move : UInt64 → UInt64}

/-- The same instruction, performed by a handler at another address. -/
def Instruction.relocate (move : UInt64 → UInt64) (instruction : Instruction) : Instruction :=
  { instruction with
    position := { instruction.position with native := move instruction.position.native } }

def Trace.Step.relocate (move : UInt64 → UInt64) (step : Step) : Step :=
  { step with address := move step.address }

namespace Trace.Occurrence

/-- The same registers seen by instructions at other addresses. -/
def relocate (move : UInt64 → UInt64) (occurrence : Occurrence) : Occurrence :=
  { steps := occurrence.steps.map (Step.relocate move) }

theorem stepAt?_relocate (injective : Function.Injective move) (occurrence : Occurrence)
    (address : UInt64) :
    (occurrence.relocate move).stepAt? (move address) =
      (occurrence.stepAt? address).map (Step.relocate move) := by
  rw [stepAt?, stepAt?, relocate, List.find?_map]
  congr 2
  ext step
  exact beq_eq_beq.mpr injective.eq_iff

theorem position_relocate {occurrence : Occurrence} (ran : occurrence.steps ≠ [])
    (code : Option String) :
    (occurrence.relocate move).position code =
      { occurrence.position code with native := move (occurrence.position code).native } := by
  obtain ⟨steps⟩ := occurrence
  cases steps with
  | nil => exact absurd rfl ran
  | cons first rest => rfl

end Trace.Occurrence

namespace Handler.Pattern

variable {decoder decoder' : Decoder} {occurrence : Occurrence}

/-- Whatever is read off a step and its instruction is read alike at the new place. -/
theorem anchored?_relocate {α : Type} (injective : Function.Injective move) {address : UInt64}
    (moved : decoder.Moved move decoder' address)
    {read : Step × Native.Instruction → Option α}
    (alike : ∀ step instruction instruction', instruction'.code = instruction.code →
      read (Step.relocate move step, instruction') = read (step, instruction)) :
    (anchored? (occurrence.relocate move) decoder' (move address)).bind read =
      (anchored? occurrence decoder address).bind read := by
  unfold anchored?
  rw [Occurrence.stepAt?_relocate injective]
  cases occurrence.stepAt? address with
  | none => rfl
  | some step =>
      rcases moved.cases with ⟨old, new⟩ | ⟨instruction, instruction', old, new, same⟩
      · rw [old, new]
        rfl
      · rw [old, new]
        exact alike step instruction instruction' same

theorem operation?_relocate (injective : Function.Injective move) {pattern : Pattern}
    (moved : ∀ address ∈ pattern.anchor?, decoder.Moved move decoder' address)
    (saveArea : UInt64) :
    (pattern.relocate move).operation? (occurrence.relocate move) decoder' saveArea =
      pattern.operation? occurrence decoder saveArea := by
  cases pattern with
  | popReg size store pair =>
      apply anchored?_relocate injective (moved store rfl)
      intro step instruction instruction' same
      obtain ⟨mnemonic, operands⟩ := Prod.mk.inj same
      simp only [slotAt?, Native.Instruction.memoryOperand?, mnemonic, operands]
      rfl
  | pushReg size load =>
      apply anchored?_relocate injective (moved load rfl)
      intro step instruction instruction' same
      obtain ⟨-, operands⟩ := Prod.mk.inj same
      simp only [slotAt?, Native.Instruction.memoryOperand?, operands]
      rfl
  | pushImm size load store =>
      apply anchored?_relocate injective (moved store rfl)
      intro step instruction instruction' same
      obtain ⟨-, operands⟩ := Prod.mk.inj same
      simp only [Native.Instruction.registerOperand?, operands]
      rfl
  | _ => rfl

@[simp] theorem pair?_relocate (pattern : Pattern) :
    (pattern.relocate move).pair? = pattern.pair? := by
  cases pattern <;> rfl

@[simp] theorem size_relocate (pattern : Pattern) :
    (pattern.relocate move).size = pattern.size := by
  cases pattern <;> rfl

/-- An occurrence of a relocated handler performs the same instruction. -/
theorem instruction?_relocate (injective : Function.Injective move) {pattern : Pattern}
    (ran : occurrence.steps ≠ [])
    (moved : ∀ address ∈ pattern.anchor?, decoder.Moved move decoder' address)
    (selection : Selection) (saveArea : UInt64) :
    (pattern.relocate move).instruction? (occurrence.relocate move) selection decoder' saveArea =
      (pattern.instruction? occurrence selection decoder saveArea).map
        (Instruction.relocate move) := by
  rw [instruction?, instruction?, fits, fits, codeRegister?, codeRegister?, pair?_relocate,
    size_relocate, operation?_relocate injective moved, Occurrence.position_relocate ran]
  refine when_moved Iff.rfl ?_
  rw [Option.map_map]
  rfl

end Handler.Pattern

end VmRecovery

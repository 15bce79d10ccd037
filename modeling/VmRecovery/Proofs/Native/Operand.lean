import Mathlib
import VmRecovery.Native.Operand

/-!
# Effective addresses in exact arithmetic

An effective address is computed in 32-bit words, of which the displacement is cut from 64 bits and
register parts are filled up with zeros. All of it wraps around in the same way: the address is the
one number below 2³² that differs from the exact sum by a multiple of 2³²
(`effectiveAddress_eq_some_iff`).
-/

namespace VmRecovery.Native

open Machine

/-! Words as numbers modulo 2³². -/

/-- A sum of words is the exact sum up to multiples of the word size. -/
theorem modEq_add (left right : UInt32) :
    ((left + right).toNat : Int) ≡ left.toNat + right.toNat [ZMOD 2 ^ 32] := by
  rw [UInt32.toNat_add]
  push_cast
  exact Int.mod_modEq _ _

/-- A difference of words is the exact difference up to multiples of the word size. -/
theorem modEq_sub (left right : UInt32) :
    ((left - right).toNat : Int) ≡ left.toNat - right.toNat [ZMOD 2 ^ 32] := by
  have back := modEq_add (left - right) right
  rw [UInt32.sub_add_cancel] at back
  have difference := back.sub_right (right.toNat : Int)
  rw [Int.add_sub_cancel] at difference
  exact difference.symm

/-- A product of words is the exact product up to multiples of the word size. -/
theorem modEq_mul (left right : UInt32) :
    ((left * right).toNat : Int) ≡ left.toNat * right.toNat [ZMOD 2 ^ 32] := by
  rw [UInt32.toNat_mul]
  push_cast
  exact Int.mod_modEq _ _

/-- A number cut to a word is the number up to multiples of the word size. -/
theorem modEq_ofNat (number : Nat) :
    ((UInt32.ofNat number).toNat : Int) ≡ number [ZMOD 2 ^ 32] := by
  rw [UInt32.toNat_ofNat']
  push_cast
  exact Int.mod_modEq _ _

/-- The lower half of a 64-bit word is the word up to multiples of the smaller word size. -/
theorem modEq_toUInt32 (word : UInt64) :
    (word.toUInt32.toNat : Int) ≡ word.toNat [ZMOD 2 ^ 32] := by
  rw [UInt64.toNat_toUInt32]
  push_cast
  exact Int.mod_modEq _ _

/-- A displacement cut from 64 bits is the signed displacement up to multiples of the word size. -/
theorem modEq_displacement (displacement : Int64) :
    (displacement.toUInt64.toUInt32.toNat : Int) ≡ displacement.toInt [ZMOD 2 ^ 32] := by
  have wide : (displacement.toUInt64.toNat : Int) ≡ displacement.toInt [ZMOD 2 ^ 64] := by
    rw [Int64.toInt, BitVec.toInt_eq_toNat_bmod]
    exact Int.bmod_emod.symm
  exact (modEq_toUInt32 _).trans (wide.of_dvd (by decide))

/-- A scale of zero counts as one, in words as in numbers. -/
theorem toNat_max_one (scale : UInt32) : (max scale 1).toNat = max scale.toNat 1 := by
  by_cases small : scale ≤ 1
  · rw [show max scale 1 = 1 from if_pos small]
    exact (max_eq_right (UInt32.le_iff_toNat_le.mp small)).symm
  · rw [show max scale 1 = scale from if_neg small]
    have large : 1 < scale.toNat := Nat.not_le.mp fun le => small (UInt32.le_iff_toNat_le.mpr le)
    rw [max_eq_left large.le]

/-- There is one number below 2³² among those that differ by multiples of 2³². -/
theorem eq_of_modEq {left right : Nat} (small : left < 2 ^ 32) (small' : right < 2 ^ 32)
    (same : (left : Int) ≡ right [ZMOD 2 ^ 32]) : left = right := by
  have equal : left ≡ right [MOD 2 ^ 32] := Int.natCast_modEq_iff.mp (by exact_mod_cast same)
  exact equal.eq_of_lt_of_lt small small'

namespace MemoryOperand

variable {operand : MemoryOperand} {registers : Registers} {address : UInt64}

/-- The number that a register adds to an address. One that is left out adds nothing. -/
def addend? (registers : Registers) : Option String → Option Nat
  | none => some 0
  | some name => (registers.read name).map UInt64.toNat

/-- The address that an operand denotes before it is cut to 32 bits: displacement, base and scaled
index. A scale of zero counts as one. -/
def exactAddress? (operand : MemoryOperand) (registers : Registers) : Option Int := do
  let base ← addend? registers operand.base
  let index ← addend? registers operand.index
  return operand.displacement.toInt + base + index * max operand.scale.toNat 1

/-! The effective address. -/

/-- A register part adds the number that its name reads as, cut to a word. -/
theorem registerValue_eq (registers : Registers) (name : Option String) :
    registerValue registers name = (addend? registers name).map UInt32.ofNat := by
  cases name with
  | none => rfl
  | some name =>
      rw [registerValue, addend?, Option.map_map]
      congr 1

/-- A sum of words is the exact sum up to a multiple of 2³². -/
theorem modEq_sum (displacement : Int64) (base index : Nat) (scale : UInt32) :
    ((displacement.toUInt64.toUInt32 + UInt32.ofNat base +
        UInt32.ofNat index * max scale 1).toNat : Int) ≡
      displacement.toInt + base + index * max scale.toNat 1 [ZMOD 2 ^ 32] := by
  calc ((displacement.toUInt64.toUInt32 + UInt32.ofNat base +
          UInt32.ofNat index * max scale 1).toNat : Int)
      ≡ (displacement.toUInt64.toUInt32 + UInt32.ofNat base).toNat +
          (UInt32.ofNat index * max scale 1).toNat [ZMOD 2 ^ 32] := modEq_add _ _
    _ ≡ (displacement.toUInt64.toUInt32.toNat + (UInt32.ofNat base).toNat) +
          (UInt32.ofNat index).toNat * (max scale 1).toNat [ZMOD 2 ^ 32] :=
        (modEq_add _ _).add (modEq_mul _ _)
    _ ≡ displacement.toInt + base + index * max scale.toNat 1 [ZMOD 2 ^ 32] := by
        rw [toNat_max_one]
        exact ((modEq_displacement _).add (modEq_ofNat base)).add
          ((modEq_ofNat index).mul_right _)

/-- The effective address is the number below 2³² that the exact address is cut to. -/
theorem effectiveAddress_eq_some_iff :
    operand.effectiveAddress registers = some address ↔
      ∃ total, operand.exactAddress? registers = some total ∧ address.toNat < 2 ^ 32 ∧
        (address.toNat : Int) ≡ total [ZMOD 2 ^ 32] := by
  rw [effectiveAddress, exactAddress?, registerValue_eq, registerValue_eq]
  cases addend? registers operand.base with
  | none => simp
  | some base =>
      cases addend? registers operand.index with
      | none => simp
      | some index =>
          have sum := modEq_sum operand.displacement base index operand.scale
          simp only [Option.map_some, Option.bind_eq_bind, Option.bind_some, Option.pure_def,
            Option.some.injEq, exists_eq_left']
          constructor
          · rintro rfl
            exact ⟨UInt32.toNat_lt _, sum⟩
          · rintro ⟨small, same⟩
            apply UInt64.toNat_inj.mp
            exact eq_of_modEq (UInt32.toNat_lt _) small (sum.trans same.symm)

/-- Where the exact sum can be formed there is an effective address. -/
theorem exists_effectiveAddress {total : Int}
    (isTotal : operand.exactAddress? registers = some total) :
    ∃ address, operand.effectiveAddress registers = some address := by
  rw [exactAddress?] at isTotal
  rw [effectiveAddress, registerValue_eq, registerValue_eq]
  cases based : addend? registers operand.base with
  | none => simp [based] at isTotal
  | some base =>
      cases indexed : addend? registers operand.index with
      | none => simp [based, indexed] at isTotal
      | some index => exact ⟨_, rfl⟩

/-- A register part has no value exactly if it names a register that cannot be read. -/
theorem registerValue_eq_none_iff {part : Option String} :
    registerValue registers part = none ↔
      ∃ name, part = some name ∧ registers.read name = none := by
  cases part with
  | none => simp [registerValue]
  | some name => simp [registerValue]

/-- There is no effective address exactly if a register is named that is not known. -/
theorem effectiveAddress_eq_none_iff :
    operand.effectiveAddress registers = none ↔
      ∃ name, (operand.base = some name ∨ operand.index = some name) ∧
        registers.read name = none := by
  have missing : operand.effectiveAddress registers = none ↔
      registerValue registers operand.base = none ∨
        registerValue registers operand.index = none := by
    rw [effectiveAddress]
    cases registerValue registers operand.base with
    | none => simp
    | some base => cases registerValue registers operand.index <;> simp
  rw [missing, registerValue_eq_none_iff, registerValue_eq_none_iff, ← exists_or]
  simp only [or_and_right]

/-- The displacement counts up to multiples of 2³². -/
theorem effectiveAddress_shift (operand : MemoryOperand) (registers : Registers) (turns : Int) :
    (operand.withDisplacement
        (Int64.ofInt (operand.displacement.toInt + turns * 2 ^ 32))).effectiveAddress registers =
      operand.effectiveAddress registers := by
  have wide : (Int64.ofInt (operand.displacement.toInt + turns * 2 ^ 32)).toInt ≡
      operand.displacement.toInt + turns * 2 ^ 32 [ZMOD 2 ^ 64] := by
    rw [Int64.toInt_ofInt]
    exact Int.bmod_emod
  have back : operand.displacement.toInt + turns * 2 ^ 32 ≡ operand.displacement.toInt
      [ZMOD 2 ^ 32] := Int.add_mul_emod_self_right _ _ _
  have cut := (wide.of_dvd (by decide : (2 ^ 32 : Int) ∣ 2 ^ 64)).trans back
  have same : (Int64.ofInt (operand.displacement.toInt + turns * 2 ^ 32)).toUInt64.toUInt32 =
      operand.displacement.toUInt64.toUInt32 := by
    apply UInt32.toNat_inj.mp
    apply eq_of_modEq (UInt32.toNat_lt _) (UInt32.toNat_lt _)
    exact ((modEq_displacement _).trans cut).trans (modEq_displacement _).symm
  rw [effectiveAddress, effectiveAddress, withDisplacement, same]

end MemoryOperand

end VmRecovery.Native

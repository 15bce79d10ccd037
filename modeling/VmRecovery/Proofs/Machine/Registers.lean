import Mathlib
import VmRecovery.Machine.Registers

/-!
# Names that share their storage

Every register name stands for consecutive bits of one register, in whatever case it is written, and
`Bits.ofName?` says which: `AH` for the eight bits from bit 8 of `EAX`. A value written under a name
takes the place of these bits and of no others (`exists_written`). All else follows from that, above
all what the write means for another name: it reads the old value with the shared bits replaced
(`write_replaces_bits`).
-/

namespace VmRecovery.Machine

/-- Consecutive bits of a register. -/
structure Bits where
  register : Register
  /-- The lowest bit. -/
  low : Nat
  width : Nat
  deriving DecidableEq, Repr

/-- The registers whose low half comes apart into two bytes, by their letter. -/
def dataRegisters : List (String × Register) :=
  [("A", .eax), ("C", .ecx), ("D", .edx), ("B", .ebx)]

/-- The registers of which only the low half has a name of its own, by that name. -/
def pointerRegisters : List (String × Register) :=
  [("SP", .esp), ("BP", .ebp), ("SI", .esi), ("DI", .edi)]

namespace Bits

variable {bits : Bits} {view : View} {name : String} {register : Register} {place : Nat}

/-- All upper-case names with the bits that they stand for. -/
def named : List (String × Bits) :=
  (dataRegisters.flatMap fun (letter, register) =>
      [("E" ++ letter ++ "X", ⟨register, 0, 32⟩), (letter ++ "X", ⟨register, 0, 16⟩),
        (letter ++ "L", ⟨register, 0, 8⟩), (letter ++ "H", ⟨register, 8, 8⟩)]) ++
    (pointerRegisters.flatMap fun (letters, register) =>
      [("E" ++ letters, ⟨register, 0, 32⟩), (letters, ⟨register, 0, 16⟩)]) ++
    [("EIP", ⟨.eip, 0, 32⟩), ("EFLAGS", ⟨.eflags, 0, 32⟩)]

/-- The bits that a name stands for; the case of ASCII letters does not matter. -/
def ofName? (name : String) : Option Bits :=
  named.lookup (name.map Char.toUpper)

/-- A bit of a register is one of the bits. -/
def Holds (bits : Bits) (register : Register) (place : Nat) : Prop :=
  bits.register = register ∧ bits.low ≤ place ∧ place < bits.low + bits.width

instance (bits : Bits) (register : Register) (place : Nat) :
    Decidable (bits.Holds register place) :=
  inferInstanceAs (Decidable (_ ∧ _ ∧ _))

/-- No bit belongs to both. -/
def Disjoint (bits other : Bits) : Prop :=
  ∀ register place, bits.Holds register place → ¬ other.Holds register place

/-! The views behind the names. -/

/-- A view shows the bits. -/
structure Shown (view : View) (bits : Bits) : Prop where
  register : view.register = bits.register
  low : view.offset.toNat = bits.low
  mask : view.mask.toNat = 2 ^ bits.width - 1
  nonempty : 0 < bits.width
  inside : bits.low + bits.width ≤ 32

/-- A name stands for a view exactly if it stands for bits, and the view shows them. -/
theorem unknown_or_shown (name : String) :
    (View.ofName? name = none ∧ ofName? name = none) ∨
      ∃ view bits, View.ofName? name = some view ∧ ofName? name = some bits ∧ Shown view bits := by
  rw [View.ofName?, ofName?]
  generalize name.map Char.toUpper = upper
  unfold View.ofUpperName?
  split
  case h_27 =>
    have unknown : named.lookup upper = none := by
      rw [List.lookup_eq_none_iff]
      simp_all [named, dataRegisters, pointerRegisters]
    exact .inl ⟨rfl, unknown⟩
  all_goals exact .inr ⟨_, _, rfl, rfl, rfl, rfl, rfl, by decide, by decide⟩

/-- A name for bits also stands for the view that shows them. -/
theorem exists_shown (isBits : ofName? name = some bits) :
    ∃ view, View.ofName? name = some view ∧ Shown view bits := by
  rcases unknown_or_shown name with ⟨-, noBits⟩ | ⟨view, bits', isView, isBits', shown⟩
  · rw [noBits] at isBits
    cases isBits
  · obtain rfl : bits' = bits := Option.some.inj (isBits'.symm.trans isBits)
    exact ⟨view, isView, shown⟩

/-- A name stands for bits of a 32-bit register. -/
theorem inside_of_name (isBits : ofName? name = some bits) : bits.low + bits.width ≤ 32 := by
  obtain ⟨view, -, shown⟩ := exists_shown isBits
  exact shown.inside

/-- A shift by the offset of a view is one by its lowest bit. -/
theorem Shown.offset_mod (shown : Shown view bits) : view.offset.toNat % 32 = bits.low := by
  have nonempty := shown.nonempty
  have inside := shown.inside
  rw [shown.low, Nat.mod_eq_of_lt (by omega)]

/-- Extracting what a view shows gives the number that its bits hold in the content. -/
theorem Shown.toNat_extract (shown : Shown view bits) (content : UInt32) :
    (view.extract content).toNat = content.toNat / 2 ^ bits.low % 2 ^ bits.width := by
  rw [View.extract, UInt32.toNat_and, UInt32.toNat_shiftRight, shown.offset_mod, shown.mask,
    Nat.and_two_pow_sub_one_eq_mod, Nat.shiftRight_eq_div_pow]

/-- The bits of a 32-bit content end below bit 32. -/
theorem testBit_below (content : UInt32) (place : Nat) :
    content.toNat.testBit place = (decide (place < 32) && content.toNat.testBit place) := by
  by_cases below : place < 32
  · simp [below]
  · have bound : content.toNat < 2 ^ place :=
      content.toNat_lt.trans_le (Nat.pow_le_pow_right (by decide) (Nat.not_lt.mp below))
    simp [below, Nat.testBit_lt_two_pow bound]

/-- The complement flips the bits below bit 32 and has none above. -/
theorem testBit_not (content : UInt32) (place : Nat) :
    (~~~content).toNat.testBit place = (decide (place < 32) && !content.toNat.testBit place) := by
  rw [UInt32.toNat_not, UInt32.size, Nat.sub_sub, Nat.add_comm,
    Nat.testBit_two_pow_sub_succ content.toNat_lt]

/-- Shifting a content to a view moves its bits up to the lowest one of the view, and none beyond
the word. -/
theorem Shown.testBit_shiftLeft (shown : Shown view bits) (content : UInt32) (place : Nat) :
    (content <<< view.offset).toNat.testBit place =
      (decide (place < 32) && (decide (bits.low ≤ place) &&
        content.toNat.testBit (place - bits.low))) := by
  rw [UInt32.toNat_shiftLeft, shown.offset_mod, Nat.testBit_mod_two_pow, Nat.testBit_shiftLeft]

/-- The mask of a view has ones below its width. -/
theorem Shown.testBit_mask (shown : Shown view bits) (place : Nat) :
    view.mask.toNat.testBit place = decide (place < bits.width) := by
  rw [shown.mask, Nat.testBit_two_pow_sub_one]

/-- Replacing what a view shows puts the lowest bits of the value there and keeps all others. -/
theorem Shown.testBit_replace (shown : Shown view bits) (content value : UInt32) (place : Nat) :
    (view.replace content value).toNat.testBit place =
      if bits.low ≤ place ∧ place < bits.low + bits.width then
        value.toNat.testBit (place - bits.low)
      else content.toNat.testBit place := by
  have inside := shown.inside
  rw [View.replace, UInt32.toNat_or, Nat.testBit_or, UInt32.toNat_and, Nat.testBit_and, testBit_not,
    shown.testBit_shiftLeft, shown.testBit_shiftLeft, UInt32.toNat_and, Nat.testBit_and,
    shown.testBit_mask]
  split
  · rename_i within
    have below : place < 32 := by omega
    have shifted : place - bits.low < bits.width := by omega
    simp [below, within.1, shifted]
  · rename_i outside
    rw [testBit_below content]
    by_cases above : bits.low ≤ place
    · have beyond : ¬ place - bits.low < bits.width := by omega
      simp [beyond, Bool.and_comm]
    · simp [above, Bool.and_comm]

end Bits

namespace Registers

variable {registers after : Registers} {name other : String} {value old : UInt64}
  {bits otherBits : Bits}

/-- One bit of a register. -/
def bit (registers : Registers) (register : Register) (place : Nat) : Bool :=
  (registers.get register).toNat.testBit place

/-- Register files are equal if all registers hold the same. -/
theorem ext_get {left right : Registers}
    (same : ∀ register, left.get register = right.get register) : left = right := by
  obtain ⟨⟩ := left
  obtain ⟨⟩ := right
  rw [mk.injEq]
  exact ⟨same .eax, same .ecx, same .edx, same .ebx, same .esp, same .ebp, same .esi, same .edi,
    same .eip, same .eflags⟩

/-- A register holds the same if all its bits are the same. -/
theorem get_congr_bit {left right : Registers} {register : Register}
    (same : ∀ place, left.bit register place = right.bit register place) :
    left.get register = right.get register :=
  UInt32.toNat_inj.mp (Nat.eq_of_testBit_eq same)

/-- The number that some bits of the register file hold. -/
def content (registers : Registers) (bits : Bits) : Nat :=
  (registers.get bits.register).toNat / 2 ^ bits.low % 2 ^ bits.width

/-- The bits of the number that some bits hold are these bits, from the lowest one on. -/
theorem testBit_content (registers : Registers) (bits : Bits) (place : Nat) :
    (registers.content bits).testBit place =
      (decide (place < bits.width) && registers.bit bits.register (bits.low + place)) := by
  rw [content, Nat.testBit_mod_two_pow, Nat.testBit_div_two_pow, bit, Nat.add_comm]

/-- The number that some bits hold is below two to the power of their width. -/
theorem content_lt (registers : Registers) (bits : Bits) :
    registers.content bits < 2 ^ bits.width :=
  Nat.mod_lt _ (Nat.two_pow_pos _)

/-- A name reads as the number that its bits hold. -/
theorem read_eq (registers : Registers) (name : String) :
    registers.read name =
      (Bits.ofName? name).map fun bits => UInt64.ofNat (registers.content bits) := by
  rcases Bits.unknown_or_shown name with ⟨noView, noBits⟩ | ⟨view, bits, isView, isBits, shown⟩
  · rw [read, noView, noBits]
    rfl
  · have same : (view.extract (registers.get view.register)).toNat = registers.content bits := by
      rw [shown.toNat_extract, shown.register, content]
    rw [read, isView, isBits, Option.map_some, Option.map_some, ← same,
      UInt64.ofNat_uInt32ToNat]

/-- What is written under a name takes the place of its bits and of no others. -/
theorem exists_written (isBits : Bits.ofName? name = some bits) (registers : Registers)
    (value : UInt64) :
    ∃ after, registers.write name value = some after ∧ ∀ register place,
      after.bit register place =
        if bits.Holds register place then value.toNat.testBit (place - bits.low)
        else registers.bit register place := by
  obtain ⟨view, isView, shown⟩ := Bits.exists_shown isBits
  refine ⟨_, by rw [write_eq, isView]; rfl, fun register place => ?_⟩
  rw [bit, get_set]
  by_cases here : register = view.register
  · have holds : bits.Holds register place ↔
        bits.low ≤ place ∧ place < bits.low + bits.width := by
      rw [Bits.Holds, and_iff_right (shown.register.symm.trans here.symm)]
    rw [if_pos here, shown.testBit_replace, ← here]
    by_cases within : bits.low ≤ place ∧ place < bits.low + bits.width
    · -- The value is cut to 32 bits first, and a view shows no more than these.
      have inside := shown.inside
      have low : place - bits.low < 32 := by omega
      rw [if_pos within, if_pos (holds.mpr within), UInt64.toNat_toUInt32, Nat.testBit_mod_two_pow]
      simp [low]
    · rw [if_neg within, if_neg (mt holds.mp within), bit]
  · have elsewhere : ¬ bits.Holds register place := fun holds =>
      here (holds.1.symm.trans shown.register.symm)
    rw [if_neg here, if_neg elsewhere, bit]

/-- A register file is another one in which some bits were replaced by the lowest bits of a value,
as all names show it. -/
structure Replaced (before : Registers) (name : String) (bits : Bits) (value : UInt64)
    (after : Registers) : Prop where
  readsValue : after.read name = some (UInt64.ofNat (value.toNat % 2 ^ bits.width))
  sameBits : ∀ register place, ¬ bits.Holds register place →
    after.bit register place = before.bit register place
  sameRegisters : ∀ register, register ≠ bits.register → after.get register = before.get register
  /-- A name that shares no bit reads as before. -/
  sameReads : ∀ other otherBits, Bits.ofName? other = some otherBits → bits.Disjoint otherBits →
    after.read other = before.read other
  /-- A name reads the bits that it shares from the value, and the others as before. -/
  sharedReads : ∀ other otherBits, Bits.ofName? other = some otherBits →
    ∃ old new, before.read other = some old ∧ after.read other = some new ∧ ∀ place,
      new.toNat.testBit place =
        if place < otherBits.width ∧ bits.Holds otherBits.register (otherBits.low + place) then
          value.toNat.testBit (otherBits.low + place - bits.low)
        else old.toNat.testBit place

/-- A name can be written exactly if it can be read. -/
theorem write_eq_none_iff (registers : Registers) (name : String) (value : UInt64) :
    registers.write name value = none ↔ registers.read name = none := by
  rw [write_eq, read, Option.map_eq_none_iff, Option.map_eq_none_iff]

/-- A name can be read exactly if it stands for some bits. -/
theorem read_eq_none_iff (registers : Registers) (name : String) :
    registers.read name = none ↔ Bits.ofName? name = none := by
  rw [read_eq, Option.map_eq_none_iff]

/-- A name for some bits reads as the number that they hold. -/
theorem read_of_bits (registers : Registers) (isBits : Bits.ofName? name = some bits) :
    registers.read name = some (UInt64.ofNat (registers.content bits)) := by
  rw [read_eq, isBits, Option.map_some]

/-- The number that the bits of a name hold fits into the word that is read. -/
theorem toNat_content (isBits : Bits.ofName? name = some bits) (registers : Registers) :
    (UInt64.ofNat (registers.content bits)).toNat = registers.content bits := by
  have narrow : bits.width ≤ 64 := by
    have inside := Bits.inside_of_name isBits
    omega
  exact Nat.mod_eq_of_lt
    ((registers.content_lt bits).trans_le (Nat.pow_le_pow_right (by decide) narrow))

/-- Bits that were replaced in the register file are replaced in whatever shares them. -/
theorem testBit_content_written
    (written : ∀ register place,
      after.bit register place =
        if bits.Holds register place then value.toNat.testBit (place - bits.low)
        else registers.bit register place)
    (other : Bits) (place : Nat) :
    (after.content other).testBit place =
      if place < other.width ∧ bits.Holds other.register (other.low + place) then
        value.toNat.testBit (other.low + place - bits.low)
      else (registers.content other).testBit place := by
  rw [testBit_content, testBit_content, written]
  by_cases within : place < other.width
  · simp [within]
  · simp [within]

/-- A file is the replaced one if each bit is that of the value within the named bits, and the old
one elsewhere. -/
theorem replaced_of_bits (isBits : Bits.ofName? name = some bits)
    (written : ∀ register place,
      after.bit register place =
        if bits.Holds register place then value.toNat.testBit (place - bits.low)
        else registers.bit register place) :
    registers.Replaced name bits value after where
  readsValue := by
    rw [read_of_bits after isBits]
    congr 2
    apply Nat.eq_of_testBit_eq
    intro place
    rw [testBit_content_written written, Nat.testBit_mod_two_pow]
    by_cases within : place < bits.width
    · simp [within, Bits.Holds]
    · simp [within, testBit_content]
  sameBits register place outside := by rw [written, if_neg outside]
  sameRegisters register different := by
    apply get_congr_bit
    intro place
    rw [written, if_neg fun holds => different holds.1.symm]
  sameReads other otherBits isOther disjoint := by
    rw [read_of_bits after isOther, read_of_bits registers isOther]
    congr 2
    apply Nat.eq_of_testBit_eq
    intro place
    rw [testBit_content_written written, if_neg]
    rintro ⟨within, holds⟩
    exact disjoint _ _ holds ⟨rfl, Nat.le_add_right _ _, Nat.add_lt_add_left within _⟩
  sharedReads other otherBits isOther := by
    refine ⟨_, _, read_of_bits registers isOther, read_of_bits after isOther, fun place => ?_⟩
    rw [toNat_content isOther, toNat_content isOther, testBit_content_written written]

/-- Writing the value that a name reads changes nothing. -/
theorem write_read (reads : registers.read name = some old) :
    registers.write name old = some registers := by
  rw [read_eq, Option.map_eq_some_iff] at reads
  obtain ⟨bits, isBits, rfl⟩ := reads
  obtain ⟨after, stored, written⟩ :=
    exists_written isBits registers (UInt64.ofNat (registers.content bits))
  rw [stored]
  congr 1
  apply ext_get
  intro register
  apply get_congr_bit
  intro place
  rw [written]
  split
  · rename_i holds
    obtain ⟨rfl, low, high⟩ := holds
    have within : place - bits.low < bits.width := by omega
    rw [toNat_content isBits, testBit_content, Nat.add_sub_cancel' low]
    simp [within]
  · rfl

/-- A write is refused exactly for a name that cannot be read, and these are the names that stand
for no bits. Under every other name it replaces the bits of the name and nothing else, and it
changes nothing if the value is the one that the name reads. -/
theorem write_replaces_bits (registers : Registers) (name : String) (value : UInt64) :
    (registers.write name value = none ↔ registers.read name = none) ∧
      (registers.read name = none ↔ Bits.ofName? name = none) ∧
      (∀ bits, Bits.ofName? name = some bits →
        ∃ after, registers.write name value = some after ∧
          registers.Replaced name bits value after) ∧
      (∀ old, registers.read name = some old → registers.write name old = some registers) := by
  refine ⟨write_eq_none_iff registers name value, read_eq_none_iff registers name, ?_, ?_⟩
  · intro bits isBits
    obtain ⟨after, stored, written⟩ := exists_written isBits registers value
    exact ⟨after, stored, replaced_of_bits isBits written⟩
  · intro old reads
    exact write_read reads

/-- The second byte of `EAX` takes the lowest byte of the value, and the lowest byte stays as it
was. A name that stands for nothing is refused. -/
theorem write_second_byte :
    ∃ after, Registers.write { eax := 0x11223344 } "Ah" 0x1ff = some after ∧
      after.read "Ah" = some 0xff ∧ after.read "al" = some 0x44 ∧
      Registers.write { eax := 0x11223344 } "XMM0" 0x1ff = none := by
  have second := write_replaces_bits { eax := 0x11223344 } "Ah" 0x1ff
  have foreign := write_replaces_bits { eax := 0x11223344 } "XMM0" 0x1ff
  obtain ⟨after, stored, replaced⟩ := second.2.2.1 ⟨.eax, 8, 8⟩ (by cbv)
  have apart : Bits.Disjoint ⟨.eax, 8, 8⟩ ⟨.eax, 0, 8⟩ := by
    intro register place above below
    exact Nat.not_le.mpr below.2.2 above.2.1
  refine ⟨after, stored, replaced.readsValue, ?_, foreign.1.mpr (foreign.2.1.mpr (by cbv))⟩
  rw [replaced.sameReads "al" ⟨.eax, 0, 8⟩ (by cbv) apart]
  cbv

end Registers

end VmRecovery.Machine

import Mathlib
import VmRecovery.Proofs.Machine.Memory

/-!
# Memory after a sequence of stores

A dword covers four addresses, which wrap around at the end of the address space, and dwords that
are stored one after the other may overlap in any way. What counts in the end is the last store that
covers an address (`Store.getElem?_foldl`): a dword can be read if each of its four addresses was
covered or had a byte from the beginning, and it joins the latest bytes (`read_after_stores`).
-/

namespace VmRecovery.Machine

/-- A call that stores a dword. -/
inductive Store where
  /-- Stores at an address. -/
  | write (address : UInt64) (dword : UInt32)
  /-- Forces the slot that a register points to. -/
  | force (register : String) (value : UInt64)
  deriving DecidableEq, Repr

variable {start snapshot : Snapshot} {address slot : UInt64} {dword : UInt32} {number : Nat}
  {registers : Registers} {store : Store} {stores : List Store}

/-- The byte that lies at an address when a number is stored from a slot on, lowest byte first. -/
def byteOf? (slot : UInt64) (number : Nat) (address : UInt64) : Option UInt8 :=
  let distance := (address - slot).toNat
  if distance < 4 then some (UInt8.ofNat (number / 256 ^ distance)) else none

namespace Store

/-- The snapshot after a call. A slot that cannot be forced leaves it as it is. -/
def apply (snapshot : Snapshot) : Store → Snapshot
  | write address dword => snapshot.writeDword address dword
  | force register value => (snapshot.forceSlot register value).getD snapshot

/-- The slot and the number that a call stores; nothing if the register is not known. -/
def target? (registers : Registers) : Store → Option (UInt64 × Nat)
  | write address dword => some (address, dword.toNat)
  | force register value =>
      (registers.read register).map fun slot => (slot, value.toNat % 2 ^ 32)

/-- The byte that a call stores at an address, if it covers the address. -/
def byte? (registers : Registers) (store : Store) (address : UInt64) : Option UInt8 :=
  (store.target? registers).bind fun (slot, number) => byteOf? slot number address

/-- An address is one of the four from the slot of a call on. -/
def Covers (registers : Registers) (store : Store) (address : UInt64) : Prop :=
  ∃ slot number, store.target? registers = some (slot, number) ∧
    ∃ index < 4, address = slot + UInt64.ofNat index

end Store

/-- The latest byte at an address: that of the last store that covers it, or else the one from the
beginning. -/
def latest? (start : Snapshot) (stores : List Store) (address : UInt64) : Option UInt8 :=
  (stores.reverse.findSome? fun store => store.byte? start.registers address).or
    start.memory[address]?

/-! One store. -/

/-- One of the four addresses from a slot on lies at its index from there, also around the end of
the address space. -/
theorem toNat_distance {index : Nat} (slot : UInt64) (near : index < 4) :
    (slot + UInt64.ofNat index - slot).toNat = index := by
  rw [UInt64.add_comm, UInt64.add_sub_cancel, UInt64.toNat_ofNat']
  omega

/-- The four addresses from a slot on are those at a distance below four. -/
theorem distance_lt_iff :
    (address - slot).toNat < 4 ↔ ∃ index < 4, address = slot + UInt64.ofNat index := by
  constructor
  · intro near
    refine ⟨_, near, ?_⟩
    rw [UInt64.ofNat_toNat, UInt64.add_comm, UInt64.sub_add_cancel]
  · rintro ⟨index, near, rfl⟩
    rwa [toNat_distance slot near]

/-- A stored number has a byte at the four addresses from its slot on. -/
theorem isSome_byteOf? :
    (byteOf? slot number address).isSome ↔
      ∃ index < 4, address = slot + UInt64.ofNat index := by
  rw [byteOf?, ← distance_lt_iff]
  split <;> simp [*]

/-- A store has a byte at the addresses that it covers. -/
theorem Store.isSome_byte? :
    (store.byte? registers address).isSome ↔ store.Covers registers address := by
  rw [byte?, Covers]
  cases store.target? registers with
  | none => simp
  | some target =>
      obtain ⟨slot, number⟩ := target
      simp [isSome_byteOf?]

/-- After a dword is written, its own byte counts where it has one, and the old memory elsewhere. -/
theorem Memory.getElem?_writeDword_eq (memory : Memory) (slot address : UInt64) (dword : UInt32) :
    (memory.writeDword slot dword)[address]? =
      (byteOf? slot dword.toNat address).or memory[address]? := by
  by_cases near : (address - slot).toNat < 4
  · obtain ⟨index, inside, rfl⟩ := distance_lt_iff.mp near
    have stored := memory.getElem?_writeDword_inside slot dword.toUInt64 inside
    rw [UInt32.toUInt32_toUInt64, UInt32.toNat_toUInt64, Nat.mod_eq_of_lt dword.toNat_lt] at stored
    rw [stored, byteOf?, toNat_distance slot inside, if_pos inside, Option.some_or]
  · have outside : ∀ index < 4, address ≠ slot + UInt64.ofNat index := fun index inside same =>
      near (distance_lt_iff.mpr ⟨index, inside, same⟩)
    rw [getElem?_writeDword_outside outside, byteOf?, if_neg near, Option.none_or]

namespace Snapshot

/-- A slot can be forced exactly if its register can be read. -/
theorem forceSlot_eq_none_iff {register : String} {value : UInt64} :
    snapshot.forceSlot register value = none ↔ snapshot.registers.read register = none := by
  rw [forceSlot, Option.map_eq_none_iff]

/-- Forcing a slot stores the lowest 32 bits of the value where the register points to. -/
theorem forceSlot_of_read {register : String}
    (points : snapshot.registers.read register = some slot) (value : UInt64) :
    snapshot.forceSlot register value =
      some (snapshot.writeDword slot (UInt32.ofNat (value.toNat % 2 ^ 32))) := by
  have lowest : value.toUInt32 = UInt32.ofNat (value.toNat % 2 ^ 32) := by
    rw [← UInt32.toNat_inj, UInt64.toNat_toUInt32, UInt32.toNat_ofNat', Nat.mod_mod]
  rw [forceSlot, points, Option.map_some, lowest]

end Snapshot

namespace Store

/-- No call changes a register, and each address holds the byte that the call stores there, if it
stores one. -/
theorem apply_effect (snapshot : Snapshot) (store : Store) :
    (store.apply snapshot).registers = snapshot.registers ∧ ∀ address : UInt64,
      (store.apply snapshot).memory[address]? =
        (store.byte? snapshot.registers address).or snapshot.memory[address]? := by
  cases store with
  | write slot dword =>
      refine ⟨rfl, fun address => ?_⟩
      exact snapshot.memory.getElem?_writeDword_eq slot address dword
  | force register value =>
      cases points : snapshot.registers.read register with
      | none =>
          rw [apply, Snapshot.forceSlot_eq_none_iff.mpr points]
          simp [byte?, target?, points]
      | some slot =>
          rw [apply, Snapshot.forceSlot_of_read points, Option.getD_some]
          refine ⟨rfl, fun address => ?_⟩
          have written := snapshot.memory.getElem?_writeDword_eq slot address
            (UInt32.ofNat (value.toNat % 2 ^ 32))
          rw [UInt32.toNat_ofNat', Nat.mod_mod] at written
          rw [byte?, target?, points]
          exact written

/-! Stores one after the other. -/

/-- Stores leave the registers as they are. -/
theorem foldl_registers (start : Snapshot) (stores : List Store) :
    (stores.foldl apply start).registers = start.registers := by
  induction stores using List.reverseRecOn with
  | nil => rfl
  | append_singleton stores store inductionHypothesis =>
      rw [List.foldl_append, List.foldl_cons, List.foldl_nil, (apply_effect _ store).1,
        inductionHypothesis]

/-- After any stores an address holds the latest byte. -/
theorem getElem?_foldl (start : Snapshot) (stores : List Store) (address : UInt64) :
    (stores.foldl apply start).memory[address]? = latest? start stores address := by
  induction stores using List.reverseRecOn with
  | nil => simp [latest?]
  | append_singleton stores store inductionHypothesis =>
      rw [List.foldl_append, List.foldl_cons, List.foldl_nil, (apply_effect _ store).2,
        foldl_registers, inductionHypothesis]
      cases stored : store.byte? start.registers address <;> simp [latest?, stored]

end Store

/-- There is a latest byte where there was one at first or where some store covers the address. -/
theorem isSome_latest? :
    (latest? start stores address).isSome ↔
      (start.memory[address]?).isSome ∨ ∃ store ∈ stores, store.Covers start.registers address := by
  simp only [latest?, Option.isSome_or, Bool.or_eq_true, List.findSome?_isSome_iff,
    List.mem_reverse, Store.isSome_byte?]
  rw [or_comm]

/-! Reading. -/

/-- A byte joined to a number that ends below it is added to it. -/
theorem toNat_join {number : UInt32} (byte : UInt8) (place : UInt32) (room : place.toNat ≤ 24)
    (below : number.toNat < 2 ^ place.toNat) :
    (number ||| (byte.toUInt32 <<< place)).toNat = number.toNat + byte.toNat * 2 ^ place.toNat ∧
      number.toNat + byte.toNat * 2 ^ place.toNat < 2 ^ (place.toNat + 8) := by
  have bound : (byte.toNat + 1) * 2 ^ place.toNat ≤ 2 ^ 8 * 2 ^ place.toNat :=
    Nat.mul_le_mul_right _ byte.toNat_lt
  have above : 2 ^ (place.toNat + 8) ≤ 2 ^ 32 := Nat.pow_le_pow_right (by decide) (by omega)
  rw [Nat.add_mul, Nat.one_mul, ← Nat.pow_add, Nat.add_comm 8] at bound
  refine ⟨?_, by omega⟩
  rw [UInt32.toNat_or, UInt32.toNat_shiftLeft, UInt8.toNat_toUInt32,
    Nat.mod_eq_of_lt (show place.toNat < 32 by omega), Nat.shiftLeft_eq,
    Nat.mod_eq_of_lt (by omega), Nat.or_comm, Nat.mul_comm,
    ← Nat.two_pow_add_eq_or_of_lt below, Nat.add_comm]

/-- Four bytes joined in a dword are its digits to the base 256, the lowest one first. -/
theorem toNat_joined (byte0 byte1 byte2 byte3 : UInt8) :
    (byte0.toUInt32 ||| (byte1.toUInt32 <<< 8) ||| (byte2.toUInt32 <<< 16) |||
        (byte3.toUInt32 <<< 24)).toNat =
      byte0.toNat + byte1.toNat * 256 + byte2.toNat * 256 ^ 2 + byte3.toNat * 256 ^ 3 := by
  have first : byte0.toUInt32.toNat < 2 ^ (8 : UInt32).toNat := byte0.toNat_lt
  obtain ⟨join1, second⟩ := toNat_join byte1 8 (by decide) first
  rw [← join1] at second
  obtain ⟨join2, third⟩ := toNat_join byte2 16 (by decide) second
  rw [← join2] at third
  obtain ⟨join3, -⟩ := toNat_join byte3 24 (by decide) third
  rw [join3, join2, join1, UInt8.toNat_toUInt32]
  rfl

/-- A dword joins the bytes at its four addresses, lowest byte first, and cannot be read if one of
them is missing. -/
theorem Memory.readDword_eq_some_iff {memory : Memory} :
    memory.readDword address = some dword ↔
      ∃ bytes : Fin 4 → UInt8,
        (∀ index : Fin 4, memory[address + UInt64.ofNat index]? = some (bytes index)) ∧
          dword.toNat = ∑ index : Fin 4, (bytes index).toNat * 256 ^ index.val := by
  simp only [readDword, Option.bind_eq_bind, Option.bind_eq_some_iff, Option.pure_def,
    Option.some.injEq]
  constructor
  · rintro ⟨byte0, known0, byte1, known1, byte2, known2, byte3, known3, rfl⟩
    refine ⟨![byte0, byte1, byte2, byte3], ?_, ?_⟩
    · intro index
      fin_cases index
      · simpa using known0
      · exact known1
      · exact known2
      · exact known3
    · rw [toNat_joined]
      simp [Fin.sum_univ_four]
  · rintro ⟨bytes, known, joined⟩
    refine ⟨bytes 0, ?_, bytes 1, known 1, bytes 2, known 2, bytes 3, known 3, ?_⟩
    · simpa using known 0
    · rw [← UInt32.toNat_inj, toNat_joined, joined]
      simp [Fin.sum_univ_four]

/-- A dword can be read exactly if each of its four addresses has a byte. -/
theorem Memory.isSome_readDword {memory : Memory} :
    (memory.readDword address).isSome ↔
      ∀ index < 4, (memory[address + UInt64.ofNat index]?).isSome := by
  constructor
  · intro readable index inside
    obtain ⟨dword, read⟩ := Option.isSome_iff_exists.mp readable
    obtain ⟨bytes, known, -⟩ := readDword_eq_some_iff.mp read
    rw [known ⟨index, inside⟩, Option.isSome_some]
  · intro known
    have byteAt : ∀ index : Fin 4, ∃ byte, memory[address + UInt64.ofNat index]? = some byte :=
      fun index => Option.isSome_iff_exists.mp (known index index.isLt)
    choose bytes known using byteAt
    have joined : ∃ dword : UInt32,
        dword.toNat = ∑ index : Fin 4, (bytes index).toNat * 256 ^ index.val :=
      ⟨_, by rw [toNat_joined (bytes 0) (bytes 1) (bytes 2) (bytes 3)]; simp [Fin.sum_univ_four]⟩
    obtain ⟨dword, joined⟩ := joined
    rw [readDword_eq_some_iff.mpr ⟨bytes, known, joined⟩, Option.isSome_some]

/-- After any stores, from any snapshot on, a dword can be read exactly if each of its four
addresses had a byte at the beginning or was covered by a store, and it joins the latest bytes,
lowest byte first. Forcing the slot that a register points to is a store of the lowest 32 bits of
the value there; a register that is not known leaves the snapshot as it is. No store changes a
register. -/
theorem read_after_stores (start : Snapshot) (stores : List Store) (address : UInt64) :
    let after := stores.foldl Store.apply start
    ((after.readDword address).isSome ↔ ∀ index < 4,
        (start.memory[address + UInt64.ofNat index]?).isSome ∨
          ∃ store ∈ stores, store.Covers start.registers (address + UInt64.ofNat index)) ∧
      (∀ dword, after.readDword address = some dword ↔
        ∃ bytes : Fin 4 → UInt8,
          (∀ index : Fin 4,
            latest? start stores (address + UInt64.ofNat index) = some (bytes index)) ∧
          dword.toNat = ∑ index : Fin 4, (bytes index).toNat * 256 ^ index.val) ∧
      after.registers = start.registers ∧
      ∀ register value,
        (after.forceSlot register value = none ↔ after.registers.read register = none) ∧
        (after.forceSlot register value = none →
          (Store.force register value).apply after = after) ∧
        ∀ slot, after.registers.read register = some slot →
          after.forceSlot register value =
            some (after.writeDword slot (UInt32.ofNat (value.toNat % 2 ^ 32))) := by
  intro after
  refine ⟨?_, ?_, Store.foldl_registers start stores, fun register value => ?_⟩
  · rw [Snapshot.readDword, Memory.isSome_readDword]
    simp only [after, Store.getElem?_foldl, isSome_latest?]
  · intro dword
    rw [Snapshot.readDword, Memory.readDword_eq_some_iff]
    simp only [after, Store.getElem?_foldl]
  · refine ⟨Snapshot.forceSlot_eq_none_iff, ?_, ?_⟩
    · intro refused
      rw [Store.apply, refused, Option.getD_none]
    · intro slot points
      exact Snapshot.forceSlot_of_read points value

/-- A dword at the end of the address space whose upper half lies at the addresses 0 and 1, where
the slot behind `EBP` is forced later on. -/
theorem forced_slot_overlaps :
    let after := [Store.write 0xfffffffffffffffe 0x44332211, .force "EBP" 0x5aabbccdd].foldl
      Store.apply {}
    after.readDword 0xfffffffffffffffe = some 0xccdd2211 ∧ after.registers = {} := by
  have reads := read_after_stores {}
    [.write 0xfffffffffffffffe 0x44332211, .force "EBP" 0x5aabbccdd] 0xfffffffffffffffe
  refine ⟨(reads.2.1 _).mpr ⟨![0x11, 0x22, 0xdd, 0xcc], ?_, by decide⟩, reads.2.2.1⟩
  decide +kernel

end VmRecovery.Machine

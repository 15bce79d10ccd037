import VmRecovery.Handler.Verdict
import VmRecovery.Proofs.Handler.Search
import VmRecovery.Proofs.Ir.Relocation

/-!
# Handlers at other addresses

A relocation moves the operations of a handler, and with them the addresses that a pattern
records and those that a draft leaves to the decoder. A matcher sees these addresses as part of
origins and operations only (`inputOrigins_relocate`, `sourceDefinition?_relocate`), and what it
takes from a decoder are the mnemonic and the operands found there (`Draft.resolve_relocate`).
-/

namespace VmRecovery

open Handler Ir Native

variable {move : UInt64 → UInt64}

/-! Decoders that find the same code at other addresses. -/

namespace Native

/-- What an instruction does, apart from where it lies and from how it is encoded. -/
def Instruction.code (instruction : Instruction) : Mnemonic × List Operand :=
  (instruction.mnemonic, instruction.operands)

/-- At the new place of an address a decoder finds the code that another one finds at the old
place, or both find nothing. -/
def Decoder.Moved (move : UInt64 → UInt64) (decoder decoder' : Decoder) (address : UInt64) :
    Prop :=
  (decoder'.decode (move address)).map Instruction.code =
    (decoder.decode address).map Instruction.code

namespace Decoder.Moved

variable {decoder decoder' : Decoder} {address : UInt64}

/-- Either both decoders find nothing, or both find instructions with the same code. -/
theorem cases (moved : Moved move decoder decoder' address) :
    (decoder.decode address = none ∧ decoder'.decode (move address) = none) ∨
      ∃ instruction instruction', decoder.decode address = some instruction ∧
        decoder'.decode (move address) = some instruction' ∧
        instruction'.code = instruction.code := by
  unfold Moved at moved
  cases old : decoder.decode address with
  | none =>
      rw [old, Option.map_none, Option.map_eq_none_iff] at moved
      exact .inl ⟨rfl, moved⟩
  | some instruction =>
      rw [old, Option.map_some, Option.map_eq_some_iff] at moved
      obtain ⟨instruction', new, same⟩ := moved
      exact .inr ⟨instruction, instruction', rfl, new, same⟩

/-- The same mnemonic is found at the new place. -/
theorem mnemonicAt (moved : Moved move decoder decoder' address) :
    decoder'.mnemonicAt (move address) = decoder.mnemonicAt address := by
  unfold Decoder.mnemonicAt
  rcases moved.cases with ⟨old, new⟩ | ⟨instruction, instruction', old, new, same⟩
  · rw [old, new]
  · rw [old, new, Option.map_some, Option.map_some]
    exact congrArg some (Prod.mk.inj same).1

/-- The memory operand at a place of the instruction has the same size. -/
theorem accessSize (moved : Moved move decoder decoder' address) (place : Nat) :
    decoder'.accessSize place (move address) = decoder.accessSize place address := by
  unfold Decoder.accessSize
  rcases moved.cases with ⟨old, new⟩ | ⟨instruction, instruction', old, new, same⟩
  · rw [old, new]
  · have operands : instruction'.operands = instruction.operands := (Prod.mk.inj same).2
    simp only [old, new, Option.bind_some, Instruction.memoryOperand?, operands]

end Decoder.Moved

end Native

namespace Handler

/-! Relocated patterns and drafts. -/

/-- The pattern at other addresses: pushes and pops record where their operands are read. -/
def Pattern.relocate (move : UInt64 → UInt64) : Pattern → Pattern
  | popReg size store pair => popReg size (move store) pair
  | pushReg size load => pushReg size (move load)
  | pushImm size load store => pushImm size (move load) (move store)
  | pattern => pattern

def Verdict.relocate (move : UInt64 → UInt64) : Verdict → Verdict
  | handler pattern => handler (pattern.relocate move)
  | verdict => verdict

namespace Draft

def relocate (move : UInt64 → UInt64) : Draft → Draft
  | settled pattern => settled (pattern.relocate move)
  | sized place address pattern =>
      sized place (move address) fun size => (pattern size).relocate move
  | named definition patternOf load =>
      named (move definition)
        (fun mnemonic => (patternOf mnemonic).map fun pattern size => (pattern size).relocate move)
        (move load)

/-- Only the addresses change about a draft of patterns that record none. -/
theorem relocate_named {definition load : UInt64}
    {patternOf : Mnemonic → Option (UInt8 → Pattern)}
    (plain : ∀ mnemonic pattern, patternOf mnemonic = some pattern →
      ∀ size, (pattern size).relocate move = pattern size) :
    (named definition patternOf load).relocate move =
      named (move definition) patternOf (move load) := by
  refine congrArg (named (move definition) · (move load)) (funext fun mnemonic => ?_)
  cases isPattern : patternOf mnemonic with
  | none => rfl
  | some pattern => exact congrArg some (funext (plain mnemonic pattern isPattern))

/-- A relocated draft is completed to the relocated pattern by a decoder that finds the same code
at the new places of the addresses that are looked up. -/
theorem resolve_relocate {decoder decoder' : Decoder} {draft : Draft}
    (moved : ∀ address ∈ draft.lookups decoder, decoder.Moved move decoder' address) :
    (draft.relocate move).resolve decoder' =
      (draft.resolve decoder).map (Pattern.relocate move) := by
  cases draft with
  | settled pattern => rfl
  | sized place address pattern =>
      have same := (moved address List.mem_cons_self).accessSize place
      rw [relocate, resolve, resolve, same, Option.map_some]
  | named definition patternOf load =>
      have same := (moved definition List.mem_cons_self).mnemonicAt
      have found : (decoder.mnemonicAt definition).bind (fun mnemonic =>
          (patternOf mnemonic).map fun pattern size => (pattern size).relocate move) =
            ((decoder.mnemonicAt definition).bind patternOf).map
              fun pattern size => (pattern size).relocate move :=
        Option.map_bind.symm
      rw [relocate, resolve, resolve, same, found, Option.map_map, Option.map_map]
      -- The width is looked up only if there is a pattern.
      apply Option.map_congr
      intro pattern isPattern
      have width : decoder'.loadSize (move load) = decoder.loadSize load := by
        apply (moved load _).accessSize
        rw [lookups, isPattern]
        exact List.mem_cons_of_mem _ List.mem_cons_self
      rw [Function.comp, Function.comp, width]

/-- The addresses looked up stay where they are if the whole draft does. -/
theorem fixed_of_relocate_eq {draft : Draft} (kept : draft.relocate move = draft)
    (decoder : Decoder) : ∀ address ∈ draft.lookups decoder, move address = address := by
  intro address member
  cases draft with
  | settled pattern => cases member
  | sized place address' pattern =>
      obtain rfl := List.mem_singleton.mp member
      exact (Draft.sized.inj kept).2.1
  | named definition patternOf load =>
      obtain ⟨keptDefinition, -, keptLoad⟩ := Draft.named.inj kept
      rcases List.mem_cons.mp member with rfl | isLoad
      · exact keptDefinition
      · split at isLoad
        · rwa [List.mem_singleton.mp isLoad]
        · cases isLoad

end Draft

/-! Relocated sites. -/

namespace Site

def relocate (move : UInt64 → UInt64) (site : Site) : Site :=
  { site with fragment := site.fragment.relocate move }

variable {site : Site}

/-- A copy is looked at under the same selection. -/
@[simp] theorem selection_relocate : (site.relocate move).selection = site.selection :=
  rfl

/-- A copied handler has the copies of the writes. -/
@[simp] theorem stores_relocate :
    (site.relocate move).stores = site.stores.map (Op.relocate move) :=
  Fragment.stores_relocate

/-- A copied handler has the copies of the reads. -/
@[simp] theorem loads_relocate :
    (site.relocate move).loads = site.loads.map (Op.relocate move) :=
  Fragment.loads_relocate

/-- The first write of a copy is the copy of the first one. -/
theorem head?_stores_relocate :
    (site.relocate move).stores.head? = site.stores.head?.map (Op.relocate move) := by
  rw [stores_relocate, List.head?_map]

/-- The first read of a copy is the copy of the first one. -/
theorem head?_loads_relocate :
    (site.relocate move).loads.head? = site.loads.head?.map (Op.relocate move) := by
  rw [loads_relocate, List.head?_map]

/-- A copy reads as often. -/
theorem length_loads_relocate : (site.relocate move).loads.length = site.loads.length := by
  rw [loads_relocate, List.length_map]

/-- A copy has the same memory traffic. -/
@[simp] theorem traffic_relocate : (site.relocate move).traffic = site.traffic := by
  rw [traffic, traffic, stores_relocate, List.length_map, length_loads_relocate]

/-- The value of a copied write is defined by the copy of its definition. -/
@[simp] theorem sourceDefinition?_relocate (store : Op) :
    (site.relocate move).sourceDefinition? (store.relocate move) =
      (site.sourceDefinition? store).map (Op.relocate move) := by
  rw [sourceDefinition?, sourceDefinition?, Option.map_bind]
  exact congrArg _ (funext fun _ => Fragment.definingOp?_relocate _)

/-- The inputs of a copied operation come from the copied origins. -/
theorem inputOrigins_relocate (apart : Set.InjOn move site.fragment.occupied) (op : Op)
    (place : Nat) :
    (site.relocate move).inputOrigins (op.relocate move) place =
      (site.inputOrigins op place).map (Origin.relocate move) := by
  rw [inputOrigins, inputOrigins, Op.inputs_relocate]
  split
  · exact Fragment.origins_relocate apart _
  · rfl

/-- The address of a copied write comes from the copied origins. -/
theorem targetOrigins_relocate (apart : Set.InjOn move site.fragment.occupied) (store : Op) :
    (site.relocate move).targetOrigins (store.relocate move) =
      (site.targetOrigins store).map (Origin.relocate move) :=
  inputOrigins_relocate apart store 0

/-- The value of a copied write comes from the copied origins. -/
theorem sourceOrigins_relocate (apart : Set.InjOn move site.fragment.occupied) (store : Op) :
    (site.relocate move).sourceOrigins (store.relocate move) =
      (site.sourceOrigins store).map (Origin.relocate move) :=
  inputOrigins_relocate apart store 1

/-- What a register of the copy holds at the return comes from the copied origins. -/
theorem returnOrigins?_relocate (apart : Set.InjOn move site.fragment.occupied)
    (register : String) :
    (site.relocate move).returnOrigins? register =
      (site.returnOrigins? register).map (List.map (Origin.relocate move)) := by
  rw [returnOrigins?, returnOrigins?, Option.map_map]
  exact congrArg (Option.map · _) (funext fun _ => Fragment.origins_relocate apart _)

end Site

end Handler

end VmRecovery

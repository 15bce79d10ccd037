import VmRecovery.Proofs.Handler.Reading
import VmRecovery.Proofs.Handler.Slots
import VmRecovery.Proofs.Simulation.Handlers

/-!
# Copies of a handler are the same instruction

A copy of a handler at other addresses is recognised as the same one, with the recorded addresses
moved, and an occurrence of the copy performs the same instruction (`recognition_relocates`). The
dataflow comes first: every matcher drafts the same for the copy (`relocates_of_mem`). From this
it follows that the decoder is asked for addresses of operations only
(`Matcher.lookups_occupied`), so what it answers elsewhere does not matter. Neither does what was
executed, which a site does not tell.
-/

namespace VmRecovery

open Handler Ir

variable {move : UInt64 → UInt64}

def Handler.Clue.relocate (move : UInt64 → UInt64) (clue : Clue) : Clue :=
  { clue with behind := clue.behind.map (Op.relocate move) }

namespace Ir.Fragment

variable {fragment : Fragment}

/-! What the matchers read off a fragment. -/

/-- The inputs of a copied operation are defined by the copies of their definitions. -/
@[simp] theorem inputDefinition?_relocate (op : Op) (place : Nat) :
    (fragment.relocate move).inputDefinition? (op.relocate move) place =
      (fragment.inputDefinition? op place).map (Op.relocate move) := by
  rw [inputDefinition?, inputDefinition?, Option.map_bind]
  exact congrArg _ (funext fun _ => definingOp?_relocate _)

/-- An input of a copied operation is the result of the same opcode. -/
@[simp] theorem inputIs_relocate (op : Op) (place : Nat) (code : Opcode) :
    (fragment.relocate move).inputIs (op.relocate move) place code =
      fragment.inputIs op place code := by
  rw [inputIs, inputIs, inputDefinition?_relocate, Option.any_map]
  rfl

/-- An input of a copied operation is a constant exactly if the original one is. -/
@[simp] theorem inputIsConstant_relocate (op : Op) (place : Nat) :
    (fragment.relocate move).inputIsConstant (op.relocate move) place =
      fragment.inputIsConstant op place :=
  rfl

/-- A copied operation gives the copied clue, with the copies of what is to be looked at behind it.
-/
theorem clue_relocate (op : Op) :
    (fragment.relocate move).clue (op.relocate move) = (fragment.clue op).relocate move := by
  have further : ∀ place, ((fragment.relocate move).inputDefinition? (op.relocate move)
      place).toList = (fragment.inputDefinition? op place).toList.map (Op.relocate move) := by
    intro place
    rw [inputDefinition?_relocate, Option.toList_map]
  have joined : op.inputs.filterMap (fragment.relocate move).definingOp? =
      (op.inputs.filterMap fragment.definingOp?).map (Op.relocate move) := by
    rw [List.map_filterMap]
    exact congrArg (List.filterMap · _) (funext fun _ => definingOp?_relocate _)
  unfold clue
  simp only [Op.code_relocate, Op.inputs_relocate, inputIs_relocate, inputIsConstant_relocate,
    further, joined, ← List.map_reverse]
  split <;> try rfl
  split <;> rfl

/-- The search for a meaning goes the same way through the copies. -/
theorem meaningWithin_relocate (steps : Nat) (pending : List Op) :
    (fragment.relocate move).meaningWithin steps (pending.map (Op.relocate move)) =
      fragment.meaningWithin steps pending := by
  induction steps generalizing pending with
  | zero => rfl
  | succ steps inductionHypothesis =>
      cases pending with
      | nil => rfl
      | cons op rest =>
          rw [List.map_cons, meaningWithin, meaningWithin, clue_relocate, Clue.relocate,
            ← List.map_append, inductionHypothesis]

/-- A copied result has the same meaning. -/
theorem meaning?_relocate (definition : Op) :
    (fragment.relocate move).meaning? (definition.relocate move) =
      fragment.meaning? definition := by
  have bound : (fragment.relocate move).pathBound = fragment.pathBound := by
    rw [pathBound, pathBound, maxArity_relocate, relocate, Array.size_map]
  rw [meaning?, meaning?, bound]
  exact meaningWithin_relocate _ [definition]

/-- The slot of a value is told by the copy of the operation. -/
theorem slotOp?_relocate (value : ValueId) :
    (fragment.relocate move).slotOp? value = (fragment.slotOp? value).map (Op.relocate move) := by
  refine bind_moved (definingOp?_relocate value) fun definition _ => ?_
  rw [Op.code_relocate, Op.inputs_relocate, isInput_relocate]
  split
  · cases definition.inputs.head? with
    | none => rfl
    | some pointer =>
        dsimp only
        rw [definingOp?_relocate]
        split <;> rfl
  · rfl

/-- A value of the copy was read from the same slot. -/
@[simp] theorem slotOf?_relocate (value : ValueId) :
    (fragment.relocate move).slotOf? value = fragment.slotOf? value := by
  rw [slotOf?, slotOf?, slotOp?_relocate]
  cases fragment.slotOp? value <;> rfl

/-- A slot restores the same register in the copy. -/
@[simp] theorem restoredFrom?_relocate (slot : UInt64) :
    (fragment.relocate move).restoredFrom? slot = fragment.restoredFrom? slot := by
  simp only [restoredFrom?_eq, slotOf?_relocate, returns_relocate]

/-- A value reaches the flags in the copy exactly if it does so in the original. -/
@[simp] theorem reachesFlags_relocate (value : ValueId) :
    (fragment.relocate move).reachesFlags value = fragment.reachesFlags value := by
  rw [reachesFlags, reachesFlags, usesOf_relocate, List.any_map]
  rfl

/-- The copy reserves native stack exactly if the original does. -/
theorem any_isStackReservation_relocate :
    (fragment.relocate move).ops.any (fragment.relocate move).isStackReservation =
      fragment.ops.any fragment.isStackReservation :=
  Array.any_map

end Ir.Fragment

namespace Handler

open Native Trace

/-- A shape is found in a copy as it is found in the original. -/
def Relocates (move : UInt64 → UInt64) (shape : Site → Option Draft) : Prop :=
  ∀ site : Site, Set.InjOn move site.fragment.occupied →
    shape (site.relocate move) = (shape site).map (Draft.relocate move)

namespace Site

variable {site : Site}

/-! Handlers that move one value. -/

/-- A copy of a pop reveals the same pair. -/
theorem revealedPair?_relocate (apart : Set.InjOn move site.fragment.occupied) :
    (site.relocate move).revealedPair? = site.revealedPair?.map fun (pair, store, source) =>
      (pair, store.relocate move, source.relocate move) := by
  refine unless_moved (by rw [traffic_relocate]) ?_
  rw [stores_relocate, List.head?_map]
  cases site.stores.head? with
  | none => rfl
  | some store =>
      dsimp only [Option.map_some]
      rw [sourceOrigins_relocate apart, targetOrigins_relocate apart]
      rcases site.sourceOrigins store with _ | ⟨source, _ | ⟨_, _⟩⟩
      · rfl
      · simp only [List.map_cons, List.map_nil, List.filter_map, List.any_map, List.getLast?_map,
          Function.comp_def, Origin.name_relocate, Origin.viaMemory_relocate,
          Origin.matches_relocate]
        cases (List.filter _ (site.targetOrigins store)).getLast? with
        | none => rfl
        | some code => exact when_moved Iff.rfl rfl
      · rfl

/-- A value is pushed by the copy of the write. -/
theorem pushStore?_relocate (apart : Set.InjOn move site.fragment.occupied) (stack : String) :
    (site.relocate move).pushStore? stack = (site.pushStore? stack).map (Op.relocate move) := by
  rw [pushStore?, pushStore?, stores_relocate]
  rcases site.stores with _ | ⟨store, _ | ⟨_, _⟩⟩
  · rfl
  · simp only [List.map_cons, List.map_nil, targetOrigins_relocate apart]
    rcases site.targetOrigins store with _ | ⟨target, _ | ⟨_, _⟩⟩
    · rfl
    · exact when_moved Iff.rfl rfl
    · rfl
  · rfl

/-- A push of a virtual register is drafted with the moved address of the slot's read. -/
theorem relocates_pushReg : Relocates move pushReg? := by
  intro site apart
  refine bind_kept rfl fun pair _ => ?_
  refine unless_moved (by rw [length_loads_relocate]) ?_
  refine bind_moved (pushStore?_relocate apart pair.stack) fun store _ => ?_
  rw [sourceOrigins_relocate apart]
  refine bind_moved (by rw [List.filter_map, List.getLast?_map]; rfl) fun slot _ => ?_
  refine bind_moved slot.address_relocate fun load _ => ?_
  exact when_moved (by rw [List.any_map]; rfl) rfl

/-- A push of an operand is drafted with the moved addresses of its read and its write. -/
theorem relocates_pushImm : Relocates move pushImm? := by
  intro site apart
  refine bind_kept rfl fun pair _ => ?_
  refine unless_moved (by rw [length_loads_relocate]) ?_
  refine bind_moved (pushStore?_relocate apart pair.stack) fun store _ => ?_
  refine bind_moved head?_loads_relocate fun load _ => ?_
  refine unless_moved ?_ rfl
  rw [sourceOrigins_relocate apart, List.any_map]
  rfl

/-- A push of the stack pointer is drafted with the moved address of its write. -/
theorem relocates_pushVsp : Relocates move pushVsp? := by
  intro site apart
  refine bind_kept rfl fun stack _ => ?_
  refine unless_moved (by rw [traffic_relocate]) ?_
  refine bind_moved head?_stores_relocate fun store _ => ?_
  rw [targetOrigins_relocate apart, sourceOrigins_relocate apart]
  rcases site.targetOrigins store with _ | ⟨target, _ | ⟨_, _⟩⟩
  · rfl
  · rcases site.sourceOrigins store with _ | ⟨source, _ | ⟨_, _⟩⟩
    · rfl
    · exact when_moved Iff.rfl rfl
    · rfl
  · rfl

/-- The segment of an access is told by names, which a move leaves alone. -/
theorem accessSegment?_relocate (stack : String) (origins : List Origin) :
    accessSegment? stack (origins.map (Origin.relocate move)) = accessSegment? stack origins := by
  rcases origins with _ | ⟨_, _ | ⟨_, _ | ⟨_, _⟩⟩⟩ <;> rfl

/-- A memory access is drafted with the moved address of its second read. -/
theorem relocates_memAccess : Relocates move memAccess? := by
  intro site apart
  refine bind_kept rfl fun stack _ => ?_
  refine unless_moved (by rw [traffic_relocate]) ?_
  refine bind_moved head?_stores_relocate fun store _ => ?_
  refine bind_moved (by rw [loads_relocate, List.getElem?_map]) fun load _ => ?_
  rw [targetOrigins_relocate apart, sourceOrigins_relocate apart]
  rcases site.targetOrigins store with _ | ⟨target, _ | ⟨_, _⟩⟩
  · rfl
  · refine unless_moved Iff.rfl ?_
    refine bind_kept (accessSegment?_relocate stack _) fun segment _ => ?_
    rw [Origin.viaMemory_relocate]
    cases target.viaMemory <;> rfl
  · rfl

/-! Handlers that compute. -/

/-- The write of a computed result is the copy of the original one. -/
theorem resultStore?_relocate (apart : Set.InjOn move site.fragment.occupied) :
    (site.relocate move).resultStore? = site.resultStore?.map (Op.relocate move) := by
  refine bind_kept rfl fun stack _ => ?_
  refine bind_moved head?_stores_relocate fun store _ => ?_
  rw [targetOrigins_relocate apart]
  rcases site.targetOrigins store with _ | ⟨target, _ | ⟨_, _⟩⟩
  · rfl
  · refine when_moved ?_ rfl
    rw [sourceOrigins_relocate apart, List.all_map]
    rfl
  · rfl

/-- A binary operation is drafted with the moved address of its first read. -/
theorem relocates_binary : Relocates move binary? := by
  intro site apart
  refine unless_moved (by rw [traffic_relocate]) ?_
  refine bind_moved (resultStore?_relocate apart) fun store _ => ?_
  refine bind_moved (sourceDefinition?_relocate store) fun definition _ => ?_
  refine bind_kept (Fragment.meaning?_relocate definition) fun op _ => ?_
  exact bind_moved head?_loads_relocate fun load _ => rfl

/-- A double shift is drafted with the moved addresses of its result and its first read. -/
theorem relocates_doubleShift : Relocates move doubleShift? := by
  intro site apart
  refine unless_moved (by rw [traffic_relocate]) ?_
  refine bind_moved (resultStore?_relocate apart) fun store _ => ?_
  refine bind_moved (sourceDefinition?_relocate store) fun definition _ => ?_
  refine bind_moved head?_loads_relocate fun load _ => ?_
  refine congrArg some (Draft.relocate_named ?_).symm
  intro mnemonic pattern isPattern size
  obtain ⟨op, rfl⟩ := doubleShiftOf?_eq_some isPattern
  rfl

/-- A copied write stores a result of the identification exactly if the original one does. -/
theorem isIdentification_relocate (apart : Set.InjOn move site.fragment.occupied) (store : Op) :
    (site.relocate move).isIdentification (store.relocate move) = site.isIdentification store := by
  rw [isIdentification, isIdentification, sourceOrigins_relocate apart, List.head?_map]
  cases (site.sourceOrigins store).head? <;> rfl

/-- A processor query is drafted without any address. -/
theorem relocates_cpuid : Relocates move cpuid? := by
  intro site apart
  refine unless_moved (by rw [stores_relocate, List.length_map]) ?_
  refine when_moved ?_ rfl
  rw [stores_relocate, List.all_map]
  simp only [Function.comp_def, isIdentification_relocate apart]

/-- A multiplication is drafted with the moved addresses of its product and its first read. -/
theorem relocates_mul : Relocates move mul? := by
  intro site apart
  refine bind_kept rfl fun stack _ => ?_
  refine unless_moved (by rw [traffic_relocate]) ?_
  refine bind_moved head?_stores_relocate fun store _ => ?_
  refine bind_moved head?_loads_relocate fun load _ => ?_
  rw [targetOrigins_relocate apart, sourceOrigins_relocate apart]
  rcases site.targetOrigins store with _ | ⟨target, _ | ⟨_, _⟩⟩
  · rfl
  · rcases site.sourceOrigins store with _ | ⟨first, _ | ⟨second, _ | ⟨_, _⟩⟩⟩
    · rfl
    · rfl
    · refine when_moved Iff.rfl
        (bind_moved (sourceDefinition?_relocate store) fun definition _ => ?_)
      refine congrArg some (Draft.relocate_named ?_).symm
      intro mnemonic pattern isPattern size
      obtain rfl := productOf?_eq_some isPattern
      rfl
    · rfl
  · rfl

/-! Handlers that change where execution goes on. -/

/-- A jump to a constant is drafted without any address. -/
theorem relocates_jmpConst : Relocates move jmpConst? := by
  intro site apart
  refine unless_moved (by rw [traffic_relocate]) ?_
  rw [returnOrigins?_relocate apart]
  rcases site.returnOrigins? "EIP" with _ | _ | ⟨first, _ | ⟨second, _ | ⟨_, _⟩⟩⟩
  · rfl
  · rfl
  · rfl
  · exact when_moved Iff.rfl rfl
  · rfl

/-- A jump is drafted without any address. -/
theorem relocates_jmp : Relocates move jmp? := by
  intro site apart
  refine bind_kept rfl fun stack _ => ?_
  rw [stores_relocate, loads_relocate]
  rcases site.stores with _ | ⟨_, _⟩
  · rcases site.loads with _ | ⟨first, _ | ⟨second, _ | ⟨_, _⟩⟩⟩
    · rfl
    · exact when_moved Iff.rfl rfl
    · refine when_moved Iff.rfl ?_
      rw [inputOrigins_relocate apart]
      rcases site.inputOrigins second 0 with _ | ⟨pointer, _ | ⟨_, _⟩⟩
      · rfl
      · exact when_moved Iff.rfl rfl
      · rfl
    · rfl
  · rfl

/-- A write of the stack pointer is drafted without any address. -/
theorem relocates_writeVsp : Relocates move writeVsp? := by
  intro site apart
  refine bind_kept rfl fun stack _ => ?_
  refine unless_moved (by rw [traffic_relocate]) ?_
  rw [returnOrigins?_relocate apart]
  rcases site.returnOrigins? stack with _ | _ | ⟨origin, _ | ⟨_, _⟩⟩
  · rfl
  · rfl
  · exact when_moved Iff.rfl rfl
  · rfl

/-- A pop of the flags is drafted without any address. -/
theorem relocates_popfd : Relocates move popfd? := by
  intro site _
  refine bind_kept rfl fun stack _ => ?_
  rw [stores_relocate, loads_relocate]
  rcases site.stores with _ | ⟨_, _⟩
  · rcases site.loads with _ | ⟨load, _⟩
    · rfl
    · refine when_moved Iff.rfl ?_
      refine bind_kept rfl fun value _ => ?_
      refine when_moved ?_ rfl
      rw [relocate, Fragment.reachesFlags_relocate]
  · rfl

/-- An exit is drafted with the same restored registers, and without any address. -/
theorem relocates_exit : Relocates move exit? := by
  intro site _
  refine unless_moved (by rw [length_loads_relocate]) ?_
  have restored : (site.relocate move).fragment.restoredFrom? = site.fragment.restoredFrom? :=
    funext Fragment.restoredFrom?_relocate
  rw [restored, Option.map_map]
  rfl

/-- A copy of a stack guard is one. -/
theorem isStackGuard_relocate : (site.relocate move).isStackGuard = site.isStackGuard := by
  rw [isStackGuard, isStackGuard, traffic_relocate, relocate,
    Fragment.any_isStackReservation_relocate]

/-- A copy of junk is junk. -/
theorem isJunk_relocate : (site.relocate move).isJunk = site.isJunk := by
  rw [isJunk, isJunk, traffic_relocate]

end Site

/-! Matchers. -/

/-- A matcher drafts the same for a copy, and declines it for the same reason. -/
def Matcher.Relocates (move : UInt64 → UInt64) (matcher : Matcher) : Prop :=
  ∀ site : Site, Set.InjOn move site.fragment.occupied →
    matcher.draft (site.relocate move) = (matcher.draft site).map (Draft.relocate move)

/-- A matcher that only looks for a shape drafts the same for copies if its shape does. -/
theorem Matcher.relocates_ofShape {name : String} {shape : Site → Option Draft}
    (relocates : Handler.Relocates move shape) : (Matcher.ofShape name shape).Relocates move := by
  intro site apart
  simp only [ofShape, relocates site apart]
  cases shape site <;> rfl

/-- The matcher of pops drafts the moved addresses, and refuses a copy for the same pair. -/
theorem relocates_popReg : popRegMatcher.Relocates move := by
  intro site apart
  dsimp only [popRegMatcher]
  rw [Site.revealedPair?_relocate apart, Site.selection_relocate]
  cases site.revealedPair? with
  | none => rfl
  | some found =>
      obtain ⟨pair, store, source⟩ := found
      dsimp only [Option.map_some]
      cases site.selection.admits pair with
      | false => rfl
      | true =>
          rw [Origin.address_relocate]
          cases source.address <;> rfl

/-- No matcher depends on where a handler lies. -/
theorem relocates_of_mem : ∀ matcher ∈ matchers, matcher.Relocates move := by
  intro matcher member
  simp only [matchers, mainMatchers, transferMatchers, arithmeticMatchers, controlMatchers,
    fallbackMatchers, List.mem_append, List.mem_cons, List.not_mem_nil, or_false] at member
  rcases member with (((rfl | rfl | rfl | rfl | rfl) | rfl | rfl | rfl | rfl) | rfl | rfl | rfl) |
    rfl | rfl
  · exact relocates_popReg
  · exact Matcher.relocates_ofShape Site.relocates_pushReg
  · exact Matcher.relocates_ofShape Site.relocates_pushImm
  · exact Matcher.relocates_ofShape Site.relocates_pushVsp
  · exact Matcher.relocates_ofShape Site.relocates_memAccess
  · exact Matcher.relocates_ofShape Site.relocates_binary
  · exact Matcher.relocates_ofShape Site.relocates_doubleShift
  · exact Matcher.relocates_ofShape Site.relocates_cpuid
  · exact Matcher.relocates_ofShape Site.relocates_mul
  · exact Matcher.relocates_ofShape Site.relocates_jmpConst
  · exact Matcher.relocates_ofShape Site.relocates_jmp
  · exact Matcher.relocates_ofShape Site.relocates_writeVsp
  · exact Matcher.relocates_ofShape Site.relocates_popfd
  · exact Matcher.relocates_ofShape Site.relocates_exit

/-- A matcher that does not depend on where a handler lies asks the decoder for addresses of
operations only. -/
theorem Matcher.lookups_occupied {matcher : Matcher} (relocates : ∀ move, matcher.Relocates move)
    (decoder : Decoder) (site : Site) :
    ∀ address ∈ matcher.lookups decoder site, address ∈ site.fragment.occupied := by
  intro address member
  cases drafted : matcher.draft site with
  | error refusal =>
      rw [lookups, drafted] at member
      cases member
  | ok draft =>
      rw [lookups, drafted] at member
      by_contra free
      -- If this address alone is moved, nothing changes about the handler. So nothing changes
      -- about the draft, and the address cannot be looked up to complete it.
      have fixed : ∀ other ∈ site.fragment.occupied,
          Function.update id address (address + 1) other = other := by
        intro other occupied
        have elsewhere : other ≠ address := fun same => free (same ▸ occupied)
        rw [Function.update_of_ne elsewhere, id]
      have apart : Set.InjOn (Function.update id address (address + 1))
          site.fragment.occupied := by
        intro first occupied second occupied' same
        rwa [fixed first occupied, fixed second occupied'] at same
      have kept : site.relocate (Function.update id address (address + 1)) = site := by
        rw [Site.relocate, Fragment.relocate_eq_self fixed]
      have same := relocates _ site apart
      rw [kept, drafted] at same
      have stays := Draft.fixed_of_relocate_eq (Except.ok.inj same).symm decoder address member
      rw [Function.update_self, add_eq_left] at stays
      exact absurd stays (by decide)

/-- What a matcher finds with the decoder moves along with the handler. -/
theorem Matcher.apply_relocate {matcher : Matcher} (relocates : ∀ move, matcher.Relocates move)
    {decoder decoder' : Decoder} {site : Site} (apart : Set.InjOn move site.fragment.occupied)
    (moved : ∀ address ∈ site.fragment.occupied, decoder.Moved move decoder' address) :
    matcher.apply decoder' (site.relocate move) =
      (matcher.apply decoder site).map (Pattern.relocate move) := by
  have occupied := lookups_occupied relocates decoder site
  rw [lookups] at occupied
  rw [apply, apply, relocates move site apart]
  cases drafted : matcher.draft site with
  | error refusal => rfl
  | ok draft =>
      rw [drafted] at occupied
      have resolved : (draft.relocate move).resolve decoder' =
          (draft.resolve decoder).map (Pattern.relocate move) :=
        Draft.resolve_relocate fun address member => moved address (occupied address member)
      simp only [Except.map, resolved]
      cases draft.resolve decoder <;> rfl

namespace Site

variable {site : Site} {decoder decoder' : Decoder}

/-- The battery comes to the moved pattern, if the other decoder knows the copies of all occupied
addresses. -/
theorem pattern?_relocate (apart : Set.InjOn move site.fragment.occupied)
    (moved : ∀ address ∈ site.fragment.occupied, decoder.Moved move decoder' address) :
    (site.relocate move).pattern? decoder' =
      (site.pattern? decoder).map (Pattern.relocate move) := by
  have relocates : ∀ matcher ∈ matchers, ∀ move, matcher.Relocates move :=
    fun matcher member _ => relocates_of_mem matcher member
  unfold pattern?
  generalize matchers = list at relocates ⊢
  induction list with
  | nil => rfl
  | cons matcher list inductionHypothesis =>
      rw [List.findSome?_cons, List.findSome?_cons,
        Matcher.apply_relocate (relocates matcher List.mem_cons_self) apart moved]
      cases matcher.apply decoder site with
      | ok pattern => rfl
      | error refusal =>
          exact inductionHypothesis fun other member =>
            relocates other (List.mem_cons_of_mem matcher member)

/-- A copy of a handler is recognised as the same one. -/
theorem verdict_relocate (apart : Set.InjOn move site.fragment.occupied)
    (moved : ∀ address ∈ site.fragment.occupied, decoder.Moved move decoder' address) :
    (site.relocate move).verdict decoder' = (site.verdict decoder).relocate move := by
  rw [verdict, verdict, pattern?_relocate apart moved, isStackGuard_relocate, isJunk_relocate]
  cases site.pattern? decoder with
  | some pattern => rfl
  | none =>
      cases site.isStackGuard with
      | true => rfl
      | false => cases site.isJunk <;> rfl

end Site

/-- A copy of a handler at other addresses is recognised as the same one, with the recorded
addresses moved, and its occurrences perform the same instructions, at other native addresses.
The decoders have to find the same code at the operations of the handler, and where an operand is
read from. -/
theorem recognition_relocates (injective : Function.Injective move)
    (decoder decoder' : Decoder) :
    (∀ site : Site,
        (∀ address ∈ site.fragment.occupied, decoder.Moved move decoder' address) →
          (site.relocate move).verdict decoder' = (site.verdict decoder).relocate move) ∧
      ∀ (pattern : Pattern) (occurrence : Occurrence) (selection : Selection) (saveArea : UInt64),
        occurrence.steps ≠ [] →
        (∀ address ∈ pattern.anchor?, decoder.Moved move decoder' address) →
          (pattern.relocate move).instruction? (occurrence.relocate move) selection decoder'
              saveArea =
            (pattern.instruction? occurrence selection decoder saveArea).map
              (Instruction.relocate move) :=
  ⟨fun _ moved => Site.verdict_relocate injective.injOn moved,
    fun _ _ selection saveArea ran moved =>
      Pattern.instruction?_relocate injective ran moved selection saveArea⟩

section Witness

open Simulation Machine

/-- A pop whose value is loaded and stored by different instructions. -/
def spreadPop : Site where
  fragment :=
    { entry := 0x1000
      values :=
        #[⟨.register "ESI", 4, none⟩, ⟨.register "EBP", 4, none⟩, ⟨.register "ESP", 4, none⟩,
          ⟨.temporary, 4, some 0⟩, ⟨.temporary, 4, some 1⟩, ⟨.temporary, 4, some 2⟩,
          ⟨.temporary, 4, some 4⟩]
      ops :=
        #[⟨0x1000, .load, [0], some 3⟩, ⟨0x1003, .load, [1], some 4⟩,
          ⟨0x1006, .intAdd, [2, 3], some 5⟩, ⟨0x1006, .store, [5, 4], none⟩,
          ⟨0x100a, .load, [0], some 6⟩] }
  selection := .none

/-- The decoder of the load and of the store, three and six bytes into the pop. -/
def popDecoder (base : UInt64) : Decoder :=
  Table.decoder
    { instructions :=
        [{ address := base + 3, mnemonic := .mov
           operands := [⟨.register "EAX", 4⟩, ⟨.memory (.based "EBP"), 4⟩] },
          { address := base + 6, mnemonic := .mov
            operands :=
              [⟨.memory ((MemoryOperand.based "ESP").withIndex "EDX" 1), 4⟩,
                ⟨.register "EAX", 4⟩] }] }

/-- A run of the pop that stores to the third slot of the save area at `0x200`. -/
def popRun : Occurrence where
  steps :=
    [{ address := 0x1000, registers := { esi := 0x5000, esp := 0x200 } },
      { address := 0x1003, registers := { esi := 0x5000, esp := 0x200, edx := 8 } },
      { address := 0x1006, registers := { esi := 0x5001, esp := 0x200, edx := 8 } }]

/-- A copy of the pop at `0x2000` pops into the same virtual register. -/
theorem spreadPop_copied :
    (spreadPop.relocate (· + 0x1000)).verdict (popDecoder 0x2000) =
        .handler (.popReg 4 0x2006 revealed) ∧
      (Pattern.popReg 4 0x2006 revealed).instruction? (popRun.relocate (· + 0x1000)) .none
          (popDecoder 0x2000) 0x200 =
        some
          { position := { native := 0x2000, vm := 0x5000 }
            size := 4
            operation := .popReg 8 revealed } := by
  have injective : Function.Injective (· + 0x1000 : UInt64 → UInt64) := add_left_injective 0x1000
  have moved : ∀ address ∈ spreadPop.fragment.occupied,
      (popDecoder 0x1000).Moved (· + 0x1000) (popDecoder 0x2000) address := by
    rintro address ⟨op, member, rfl⟩
    simp only [spreadPop, List.mem_toArray, List.mem_cons, List.not_mem_nil, or_false] at member
    rcases member with rfl | rfl | rfl | rfl | rfl <;>
    · rw [Decoder.Moved]
      cbv
  have anchored : ∀ address ∈ (Pattern.popReg 4 0x1006 revealed).anchor?,
      (popDecoder 0x1000).Moved (· + 0x1000) (popDecoder 0x2000) address := by
    rintro address ⟨⟩
    exact moved 0x1006 ⟨⟨0x1006, .store, [5, 4], none⟩, by simp [spreadPop], rfl⟩
  have copied := recognition_relocates injective (popDecoder 0x1000) (popDecoder 0x2000)
  constructor
  · rw [copied.1 spreadPop moved]
    cbv
  · have performed := copied.2 (.popReg 4 0x1006 revealed) popRun .none 0x200 (by simp [popRun])
      anchored
    refine performed.trans ?_
    cbv

end Witness

end Handler

end VmRecovery

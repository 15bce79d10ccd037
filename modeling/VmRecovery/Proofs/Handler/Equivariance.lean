import VmRecovery.Proofs.Handler.Renaming
import VmRecovery.Proofs.Handler.Search
import VmRecovery.Proofs.Handler.Slots
import VmRecovery.Proofs.Simulation.Handlers

/-!
# Recognition does not depend on register names

A handler is recognised as the same one over other registers, apart from the registers that its
pattern names itself (`verdict_rename`). Every matcher is taken on its own, one condition after
the other: it compares names of registers with each other, with those of the selected pair and
with names that a renaming keeps.
-/

namespace VmRecovery.Ir.Fragment

open Handler

variable {fragment : Fragment} {names : Renaming}

/-! What the matchers read off a fragment. -/

/-- Renaming leaves the definitions of inputs alone. -/
@[simp] theorem inputDefinition?_rename :
    (fragment.rename names).inputDefinition? = fragment.inputDefinition? := by
  ext1 op
  ext1 place
  rw [inputDefinition?, inputDefinition?, definingOp?_rename]

/-- A renamed operation gives the same clue to the meaning of a result. -/
@[simp] theorem clue_rename (op : Op) : (fragment.rename names).clue op = fragment.clue op := by
  unfold clue inputIs inputIsConstant
  rw [inputDefinition?_rename, definingOp?_rename, constantOf?_rename]

/-- The search for a meaning goes the same way, as it asks for opcodes and constants only. -/
theorem meaningWithin_rename (steps : Nat) (pending : List Op) :
    (fragment.rename names).meaningWithin steps pending =
      fragment.meaningWithin steps pending := by
  induction steps generalizing pending with
  | zero => rfl
  | succ steps inductionHypothesis =>
      cases pending with
      | nil => rfl
      | cons op rest =>
          rw [meaningWithin, meaningWithin, clue_rename, inductionHypothesis]

/-- A renamed result has the same meaning. -/
theorem meaning?_rename (definition : Op) :
    (fragment.rename names).meaning? definition = fragment.meaning? definition :=
  meaningWithin_rename fragment.pathBound [definition]

/-- The slot of a value is told by the same operation. -/
@[simp] theorem slotOp?_rename (value : ValueId) :
    (fragment.rename names).slotOp? value = fragment.slotOp? value := by
  rw [slotOp?, slotOp?, definingOp?_rename, isInput_rename]

/-- A value was read from the same slot. -/
@[simp] theorem slotOf?_rename (value : ValueId) :
    (fragment.rename names).slotOf? value = fragment.slotOf? value := by
  rw [slotOf?, slotOf?, slotOp?_rename, constantOf?_rename]

/-- A slot restores the renamed register. -/
theorem restoredFrom?_rename (slot : UInt64) :
    (fragment.rename names).restoredFrom? slot = (fragment.restoredFrom? slot).map names := by
  rw [restoredFrom?_eq, restoredFrom?_eq, returns_rename, List.filter_map, List.getLast?_map,
    Option.map_map, Option.map_map]
  simp only [Function.comp_def, slotOf?_rename]

/-- A renaming keeps the name of the flags, so a value reaches them as before. -/
theorem reachesFlags_rename (upper : fragment.Uppercase) (value : ValueId) :
    (fragment.rename names).reachesFlags value = fragment.reachesFlags value := by
  have same : ∀ id, ((fragment.rename names).registerOf? id).any (sameName · "EFLAGS") =
      (fragment.registerOf? id).any (sameName · "EFLAGS") := by
    intro id
    rw [registerOf?_rename]
    cases lives : fragment.registerOf? id with
    | none => rfl
    | some name => exact names.sameName_reserved (upper.registerOf? lives) (by simp [reserved])
  refine congrArg (fragment.usesOf value).any (funext fun user => ?_)
  cases user.output with
  | none => rfl
  | some id => exact congrArg (user.code == .copy && ·) (same id)

/-- A renaming keeps the name of the stack pointer, so the same operations reserve native stack. -/
theorem isStackReservation_rename (upper : fragment.Uppercase) :
    (fragment.rename names).isStackReservation = fragment.isStackReservation := by
  have same : ∀ base, ((fragment.rename names).registerOf? base == some "ESP") =
      (fragment.registerOf? base == some "ESP") := by
    intro base
    rw [registerOf?_rename]
    cases lives : fragment.registerOf? base with
    | none => rfl
    | some name => exact names.beq_reserved (upper.registerOf? lives) List.mem_cons_self
  ext1 op
  rw [isStackReservation, isStackReservation, isInput_rename]
  refine congrArg (op.code == .ptrSub && op.inputs.head?.any ·) (funext fun base => ?_)
  rw [same]

end VmRecovery.Ir.Fragment

namespace VmRecovery.Handler

open Ir Native

variable {names : Renaming}

/-- A shape is found over other registers as it is found over these. -/
def Respects (names : Renaming) (shape : Site → Option Draft) : Prop :=
  ∀ site : Site, site.Uppercase → shape (site.rename names) = (shape site).map (Draft.rename names)

/-- The search for a word finds it exactly if it is an infix of the text. -/
theorem occursIn_iff {word text : List Char} : occursIn word text = true ↔ word <:+: text := by
  induction text with
  | nil => rw [occursIn, List.isEmpty_iff, List.infix_nil]
  | cons letter text inductionHypothesis =>
      rw [occursIn, Bool.or_eq_true, List.isPrefixOf_iff_prefix, inductionHypothesis,
        List.infix_cons_iff]

/-- A name tells of the processor identification in upper case if it does so in lower case. -/
theorem identifies_iff {name : String} (upper : IsUpperCase name) :
    occursIn "cpuid".toList (name.toList.map Char.toLower) = true ↔ Mentions "CPUID" name := by
  have word : "cpuid".toList = "CPUID".toList.map Char.toLower := by cbv
  have upper' : IsUpperCase "CPUID" := by
    rw [IsUpperCase]
    cbv
  rw [occursIn_iff, word, mentions_iff_lower upper' upper]

namespace Site

variable {site : Site}

/-! Handlers that move one value. -/

/-- Over other registers a pop reveals the renamed pair. -/
theorem revealedPair?_rename (upper : site.Uppercase) :
    (site.rename names).revealedPair? = site.revealedPair?.map fun (pair, store, source) =>
      (pair.rename names, store, source.rename names) := by
  refine unless_moved Iff.rfl ?_
  rw [stores_rename]
  cases site.stores.head? with
  | none => rfl
  | some store =>
      have sources := upper.sourceOrigins store
      have targets := upper.targetOrigins store
      dsimp only
      rw [sourceOrigins_rename upper, targetOrigins_rename upper]
      generalize site.sourceOrigins store = origins at sources ⊢
      rcases origins with _ | ⟨source, _ | ⟨_, _⟩⟩
      · rfl
      · have codes := Origin.filter_rename names
          (fun origin => origin.viaMemory && origin.name != source.name)
          (fun origin => origin.viaMemory && origin.name != names source.name)
          fun origin member => by
            rw [Origin.viaMemory_rename, Origin.name_rename,
              names.bne_eq (targets origin member) (sources source List.mem_cons_self)]
        have pointers := Origin.any_rename names (·.matches "ESP" false) (·.matches "ESP" false)
          fun origin member => Origin.matches_reserved names (targets origin member)
            List.mem_cons_self false
        simp only [List.map_cons, List.map_nil, Origin.name_rename, Origin.viaMemory_rename,
          codes, pointers, List.getLast?_map]
        cases (List.filter _ (site.targetOrigins store)).getLast? with
        | none => rfl
        | some code => exact when_moved Iff.rfl rfl
      · rfl

/-- A revealed pair is named by registers that the handler uses. -/
theorem Uppercase.revealedPair? (upper : site.Uppercase) {pair : RegisterPair} {store : Op}
    {source : Origin} (reveals : site.revealedPair? = some (pair, store, source)) :
    pair.Uppercase := by
  unfold Site.revealedPair? at reveals
  split at reveals
  · cases reveals
  split at reveals
  · cases reveals
  dsimp only at reveals
  split at reveals
  · rename_i store' _ source' isSource
    split at reveals
    · cases reveals
    · rename_i code isCode
      split at reveals
      · cases reveals
        have member := List.mem_of_getLast? isCode
        exact {
          code := upper.targetOrigins store code (List.mem_filter.mp member).1
          stack := upper.sourceOrigins store source (isSource ▸ List.mem_cons_self) }
      · cases reveals
  · cases reveals

/-- A renamed selection admits the renamed pair as the plain one admits the pair. -/
theorem admits_rename (upper : site.Uppercase) {pair : RegisterPair} (upper' : pair.Uppercase) :
    (site.rename names).selection.admits (pair.rename names) = site.selection.admits pair := by
  rw [Selection.admits, Selection.admits, pair?_rename]
  cases selected : site.selection.pair? with
  | none => rfl
  | some other => exact RegisterPair.rename_beq (upper.pair other selected) upper'

/-- A value is pushed through the renamed stack register by the same write. -/
theorem pushStore?_rename (upper : site.Uppercase) {stack : String}
    (upper' : IsUpperCase stack) :
    (site.rename names).pushStore? (names stack) = site.pushStore? stack := by
  rw [pushStore?, pushStore?, stores_rename]
  rcases site.stores with _ | ⟨store, _ | ⟨_, _⟩⟩
  · rfl
  · have targets := upper.targetOrigins store
    dsimp only
    rw [targetOrigins_rename upper]
    generalize site.targetOrigins store = origins at targets ⊢
    rcases origins with _ | ⟨target, _ | ⟨_, _⟩⟩
    · rfl
    · simp only [List.map_cons, List.map_nil, Origin.viaMemory_rename, Origin.name_rename,
        names.beq_eq (targets target List.mem_cons_self) upper']
    · rfl
  · rfl

/-- A push of a virtual register compares origins with the selected pair and with `ESP`. -/
theorem respects_pushReg : Respects names pushReg? := by
  intro site upper
  refine bind_moved pair?_rename fun pair selected => ?_
  have upper' := upper.pair pair selected
  refine unless_moved Iff.rfl ?_
  refine bind_kept (pushStore?_rename upper upper'.stack) fun store _ => ?_
  have sources := upper.sourceOrigins store
  have slots := Origin.filter_rename names (·.matches "ESP" true) (·.matches "ESP" true)
    fun origin member => Origin.matches_reserved names (sources origin member)
      List.mem_cons_self true
  have codes := Origin.any_rename names (·.matches pair.code true)
    (·.matches (names pair.code) true)
    fun origin member => Origin.matches_rename (sources origin member) upper'.code true
  rw [sourceOrigins_rename upper]
  refine bind_moved (by rw [slots, List.getLast?_map]) fun slot _ => ?_
  refine bind_kept slot.address_rename fun load _ => ?_
  exact when_moved (by rw [← codes]; rfl) rfl

/-- A push of an operand compares origins with the registers of the selected pair. -/
theorem respects_pushImm : Respects names pushImm? := by
  intro site upper
  refine bind_moved pair?_rename fun pair selected => ?_
  have upper' := upper.pair pair selected
  refine unless_moved Iff.rfl ?_
  refine bind_kept (pushStore?_rename upper upper'.stack) fun store _ => ?_
  refine bind_kept rfl fun load _ => ?_
  have sources := upper.sourceOrigins store
  have others := Origin.any_rename names
    (fun origin => origin.viaMemory && origin.name != pair.code)
    (fun origin => origin.viaMemory && origin.name != names pair.code)
    fun origin member => by
      rw [Origin.viaMemory_rename, Origin.name_rename,
        names.bne_eq (sources origin member) upper'.code]
  refine unless_moved ?_ rfl
  rw [sourceOrigins_rename upper, ← others]
  rfl

/-- A push of the stack pointer compares origins with the stack register. -/
theorem respects_pushVsp : Respects names pushVsp? := by
  intro site upper
  refine bind_moved stack?_rename fun stack selected => ?_
  have upper' := upper.stack? selected
  refine unless_moved Iff.rfl ?_
  refine bind_kept rfl fun store _ => ?_
  have targets := upper.targetOrigins store
  have sources := upper.sourceOrigins store
  rw [targetOrigins_rename upper, sourceOrigins_rename upper]
  generalize site.targetOrigins store = pointers at targets ⊢
  generalize site.sourceOrigins store = values at sources ⊢
  rcases pointers with _ | ⟨target, _ | ⟨_, _⟩⟩
  · rfl
  · rcases values with _ | ⟨source, _ | ⟨_, _⟩⟩
    · rfl
    · refine when_moved ?_ rfl
      rw [Origin.matches_rename (targets target List.mem_cons_self) upper',
        Origin.matches_rename (sources source List.mem_cons_self) upper']
    · rfl
  · rfl

/-- The segment of an access is told by comparing origins with the stack register and with a
reserved name. -/
theorem accessSegment?_rename {stack : String} {origins : List Origin}
    (upper : IsUpperCase stack) (sources : ∀ origin ∈ origins, IsUpperCase origin.name) :
    accessSegment? (names stack) (origins.map (Origin.rename names)) =
      accessSegment? stack origins := by
  rcases origins with _ | ⟨first, _ | ⟨second, _ | ⟨_, _⟩⟩⟩
  · rfl
  · simp only [List.map_cons, List.map_nil, accessSegment?,
      Origin.matches_rename (sources first List.mem_cons_self) upper]
  · have base : (names first.name == "FS_OFFSET") = (first.name == "FS_OFFSET") :=
      names.beq_reserved (sources first List.mem_cons_self) (by simp [reserved])
    simp only [List.map_cons, List.map_nil, accessSegment?, Origin.name_rename, base,
      Origin.matches_rename (sources second (by simp)) upper]
  · rfl

/-- A memory access compares origins with the stack register and with the base of a segment. -/
theorem respects_memAccess : Respects names memAccess? := by
  intro site upper
  refine bind_moved stack?_rename fun stack selected => ?_
  have upper' := upper.stack? selected
  refine unless_moved Iff.rfl ?_
  refine bind_kept rfl fun store _ => ?_
  refine bind_kept rfl fun load _ => ?_
  have targets := upper.targetOrigins store
  rw [targetOrigins_rename upper, sourceOrigins_rename upper]
  generalize site.targetOrigins store = pointers at targets ⊢
  rcases pointers with _ | ⟨target, _ | ⟨_, _⟩⟩
  · rfl
  · refine unless_moved ?_ ?_
    · rw [Origin.name_rename, names.bne_eq (targets target List.mem_cons_self) upper']
    · refine bind_kept (accessSegment?_rename upper' upper.inputOrigins) fun segment _ => ?_
      rw [Origin.viaMemory_rename]
      cases target.viaMemory <;> rfl
  · rfl

/-! Handlers that compute. -/

/-- The write of a computed result is the same one over other registers. -/
theorem resultStore?_rename (upper : site.Uppercase) :
    (site.rename names).resultStore? = site.resultStore? := by
  refine Eq.trans ?_ Option.map_id'
  refine bind_moved stack?_rename fun stack selected => ?_
  have upper' := upper.stack? selected
  refine bind_kept rfl fun store _ => ?_
  have targets := upper.targetOrigins store
  have sources := upper.sourceOrigins store
  have reads := Origin.all_rename names
    (fun origin => !origin.viaMemory || origin.name == stack)
    (fun origin => !origin.viaMemory || origin.name == names stack)
    fun origin member => by
      rw [Origin.viaMemory_rename, Origin.name_rename,
        names.beq_eq (sources origin member) upper']
  rw [targetOrigins_rename upper]
  generalize site.targetOrigins store = pointers at targets ⊢
  rcases pointers with _ | ⟨target, _ | ⟨_, _⟩⟩
  · rfl
  · refine when_moved ?_ rfl
    rw [sourceOrigins_rename upper, reads,
      Origin.matches_rename (targets target List.mem_cons_self) upper']
  · rfl

/-- A binary operation has the same meaning and writes through the renamed register. -/
theorem respects_binary : Respects names binary? := by
  intro site upper
  refine unless_moved Iff.rfl ?_
  refine bind_kept (resultStore?_rename upper) fun store _ => ?_
  refine bind_kept (sourceDefinition?_rename store) fun definition _ => ?_
  refine bind_kept (Fragment.meaning?_rename definition) fun op _ => ?_
  exact bind_kept rfl fun load _ => rfl

/-- A double shift is computed at the same address and writes through the renamed register. -/
theorem respects_doubleShift : Respects names doubleShift? := by
  intro site upper
  refine unless_moved Iff.rfl ?_
  refine bind_kept (resultStore?_rename upper) fun store _ => ?_
  refine bind_kept (sourceDefinition?_rename store) fun definition _ => ?_
  refine bind_kept rfl fun load _ => ?_
  refine congrArg some (Draft.rename_named ?_).symm
  intro mnemonic pattern isPattern size
  obtain ⟨op, rfl⟩ := doubleShiftOf?_eq_some isPattern
  rfl

/-- A renaming keeps whether a name tells of the processor identification. -/
theorem isIdentification_rename (upper : site.Uppercase) :
    (site.rename names).isIdentification = site.isIdentification := by
  ext1 store
  rw [isIdentification, isIdentification, sourceOrigins_rename upper, List.head?_map]
  cases first : (site.sourceOrigins store).head? with
  | none => rfl
  | some origin =>
      have named : IsUpperCase origin.name :=
        upper.inputOrigins origin (List.mem_of_mem_head? first)
      rw [Bool.eq_iff_iff]
      exact (identifies_iff (names.upper named)).trans
        ((names.identification named).trans (identifies_iff named).symm)

/-- A processor query asks for names only that tell of the identification. -/
theorem respects_cpuid : Respects names cpuid? := by
  intro site upper
  refine unless_moved Iff.rfl ?_
  refine when_moved ?_ rfl
  rw [isIdentification_rename upper, stores_rename]

/-- A multiplication compares origins with the stack register. -/
theorem respects_mul : Respects names mul? := by
  intro site upper
  refine bind_moved stack?_rename fun stack selected => ?_
  have upper' := upper.stack? selected
  refine unless_moved Iff.rfl ?_
  refine bind_kept rfl fun store _ => ?_
  refine bind_kept rfl fun load _ => ?_
  have targets := upper.targetOrigins store
  have sources := upper.sourceOrigins store
  rw [targetOrigins_rename upper, sourceOrigins_rename upper]
  generalize site.targetOrigins store = pointers at targets ⊢
  generalize site.sourceOrigins store = values at sources ⊢
  rcases pointers with _ | ⟨target, _ | ⟨_, _⟩⟩
  · rfl
  · rcases values with _ | ⟨first, _ | ⟨second, _ | ⟨_, _⟩⟩⟩
    · rfl
    · rfl
    · refine when_moved ?_ (bind_kept (sourceDefinition?_rename store) fun definition _ => ?_)
      · rw [Origin.name_rename, names.beq_eq (targets target List.mem_cons_self) upper',
          Origin.matches_rename (sources first List.mem_cons_self) upper',
          Origin.matches_rename (sources second (by simp)) upper']
      · refine congrArg some (Draft.rename_named ?_).symm
        intro mnemonic pattern isPattern size
        obtain rfl := productOf?_eq_some isPattern
        rfl
    · rfl
  · rfl

/-! Handlers that change where execution goes on. -/

/-- A jump to a constant asks for the instruction pointer, whose name is kept. -/
theorem respects_jmpConst : Respects names jmpConst? := by
  intro site upper
  refine unless_moved Iff.rfl ?_
  have isReserved : "EIP" ∈ reserved := by simp [reserved]
  have bound := @returnOrigins?_rename names site upper "EIP" (isUpperCase_of_reserved _ isReserved)
  rw [names.keeps "EIP" isReserved] at bound
  rw [bound]
  rcases site.returnOrigins? "EIP" with _ | _ | ⟨first, _ | ⟨second, _ | ⟨_, _⟩⟩⟩
  · rfl
  · rfl
  · rfl
  · exact when_moved Iff.rfl rfl
  · rfl

/-- An access goes through the renamed stack register exactly if it goes through the stack register.
-/
theorem pointerRegister?_rename_iff (upper : site.Uppercase) {stack : String}
    (upper' : IsUpperCase stack) (load : Op) :
    (site.rename names).pointerRegister? load = some (names stack) ↔
      site.pointerRegister? load = some stack := by
  rw [pointerRegister?_rename]
  cases through : site.pointerRegister? load with
  | none => simp
  | some name =>
      rw [Option.map_some, Option.some_inj, Option.some_inj,
        names.eq_iff (upper.pointerRegister? through) upper']

/-- A jump compares the pointers of its reads with the stack register. -/
theorem respects_jmp : Respects names jmp? := by
  intro site upper
  refine bind_moved stack?_rename fun stack selected => ?_
  have upper' := upper.stack? selected
  rw [stores_rename, loads_rename]
  rcases site.stores with _ | ⟨_, _⟩
  · rcases site.loads with _ | ⟨first, _ | ⟨second, _ | ⟨_, _⟩⟩⟩
    · rfl
    · exact when_moved (pointerRegister?_rename_iff upper upper' first) rfl
    · refine when_moved (pointerRegister?_rename_iff upper upper' first) ?_
      have origins : ∀ origin ∈ site.inputOrigins second 0, IsUpperCase origin.name :=
        upper.inputOrigins
      rw [inputOrigins_rename upper]
      generalize site.inputOrigins second 0 = pointers at origins ⊢
      rcases pointers with _ | ⟨pointer, _ | ⟨_, _⟩⟩
      · rfl
      · refine when_moved ?_ rfl
        rw [Origin.matches_rename (origins pointer List.mem_cons_self) upper']
      · rfl
    · rfl
  · rfl

/-- A write of the stack pointer asks for what the stack register is bound to. -/
theorem respects_writeVsp : Respects names writeVsp? := by
  intro site upper
  refine bind_moved stack?_rename fun stack selected => ?_
  have upper' := upper.stack? selected
  refine unless_moved Iff.rfl ?_
  rw [returnOrigins?_rename upper upper']
  rcases bound : site.returnOrigins? stack with _ | _ | ⟨origin, _ | ⟨_, _⟩⟩
  · rfl
  · rfl
  · refine when_moved ?_ rfl
    rw [Origin.matches_rename (upper.returnOrigins? bound origin List.mem_cons_self) upper']
  · rfl

/-- A pop of the flags asks for the stack register and for the flags, whose name is kept. -/
theorem respects_popfd : Respects names popfd? := by
  intro site upper
  refine bind_moved stack?_rename fun stack selected => ?_
  have upper' := upper.stack? selected
  rw [stores_rename, loads_rename]
  rcases site.stores with _ | ⟨_, _⟩
  · rcases site.loads with _ | ⟨load, _⟩
    · rfl
    · refine when_moved (pointerRegister?_rename_iff upper upper' load) ?_
      refine bind_kept rfl fun value _ => ?_
      refine when_moved ?_ rfl
      rw [rename, Fragment.reachesFlags_rename upper.fragment]
  · rfl

/-- An exit restores the renamed registers from the same slots. -/
theorem respects_exit : Respects names exit? := by
  intro site _
  refine unless_moved Iff.rfl ?_
  have restored : Fragment.exitSlots.mapM (site.rename names).fragment.restoredFrom? =
      (Fragment.exitSlots.mapM site.fragment.restoredFrom?).map (List.map names) :=
    mapM_moved fun slot _ => Fragment.restoredFrom?_rename slot
  rw [restored, Option.map_map, Option.map_map]
  rfl

/-- A stack guard is told by its traffic and by a reservation at `ESP`, whose name is kept. -/
theorem isStackGuard_rename (upper : site.Uppercase) :
    (site.rename names).isStackGuard = site.isStackGuard := by
  have same := @Fragment.isStackReservation_rename site.fragment names upper.fragment
  rw [isStackGuard, isStackGuard, traffic_rename, rename, same]
  rfl

/-- Junk is told by its traffic, which names no register. -/
theorem isJunk_rename : (site.rename names).isJunk = site.isJunk :=
  rfl

end Site

/-! Matchers. -/

/-- A matcher finds over other registers what it finds over these, and declines for the same
reason. -/
def Matcher.Respects (names : Renaming) (matcher : Matcher) : Prop :=
  ∀ site : Site, site.Uppercase → matcher.draft (site.rename names) =
    ((matcher.draft site).map (Draft.rename names)).mapError (Refusal.rename names)

/-- A matcher that only looks for a shape respects a renaming if its shape does. -/
theorem Matcher.respects_ofShape {name : String} {shape : Site → Option Draft}
    (respects : Handler.Respects names shape) : (Matcher.ofShape name shape).Respects names := by
  intro site upper
  simp only [ofShape, respects site upper]
  cases shape site <;> rfl

/-- The matcher of pops admits or refuses the renamed pair as it does the plain one. -/
theorem respects_popReg : popRegMatcher.Respects names := by
  intro site upper
  simp only [popRegMatcher, Site.revealedPair?_rename upper]
  cases reveals : site.revealedPair? with
  | none => rfl
  | some found =>
      obtain ⟨pair, store, source⟩ := found
      have upper' : pair.Uppercase := upper.revealedPair? reveals
      simp only [Option.map_some, Site.admits_rename upper upper', Origin.address_rename]
      cases site.selection.admits pair with
      | false => rfl
      | true => cases source.address <;> rfl

/-- No matcher depends on the names of registers. -/
theorem respects_of_mem : ∀ matcher ∈ matchers, matcher.Respects names := by
  intro matcher member
  simp only [matchers, mainMatchers, transferMatchers, arithmeticMatchers, controlMatchers,
    fallbackMatchers, List.mem_append, List.mem_cons, List.not_mem_nil, or_false] at member
  rcases member with (((rfl | rfl | rfl | rfl | rfl) | rfl | rfl | rfl | rfl) | rfl | rfl | rfl) |
    rfl | rfl
  · exact respects_popReg
  · exact Matcher.respects_ofShape Site.respects_pushReg
  · exact Matcher.respects_ofShape Site.respects_pushImm
  · exact Matcher.respects_ofShape Site.respects_pushVsp
  · exact Matcher.respects_ofShape Site.respects_memAccess
  · exact Matcher.respects_ofShape Site.respects_binary
  · exact Matcher.respects_ofShape Site.respects_doubleShift
  · exact Matcher.respects_ofShape Site.respects_cpuid
  · exact Matcher.respects_ofShape Site.respects_mul
  · exact Matcher.respects_ofShape Site.respects_jmpConst
  · exact Matcher.respects_ofShape Site.respects_jmp
  · exact Matcher.respects_ofShape Site.respects_writeVsp
  · exact Matcher.respects_ofShape Site.respects_popfd
  · exact Matcher.respects_ofShape Site.respects_exit

/-- What the decoder adds does not depend on the names either. -/
theorem Matcher.Respects.apply {matcher : Matcher} (respects : matcher.Respects names)
    (decoder : Decoder) {site : Site} (upper : site.Uppercase) :
    matcher.apply decoder (site.rename names) =
      ((matcher.apply decoder site).map (Pattern.rename names)).mapError
        (Refusal.rename names) := by
  rw [Matcher.apply, Matcher.apply, respects site upper]
  cases matcher.draft site with
  | error refusal => rfl
  | ok draft =>
      simp only [Except.map, Except.mapError, Draft.resolve_rename]
      cases draft.resolve decoder <;> rfl

namespace Site

variable {site : Site}

/-- The battery comes to the renamed pattern, since each of its matchers drafts the renamed one. -/
theorem pattern?_rename (decoder : Decoder) (upper : site.Uppercase) :
    (site.rename names).pattern? decoder = (site.pattern? decoder).map (Pattern.rename names) := by
  have respects := @respects_of_mem names
  unfold pattern?
  -- Which matchers there are no longer matters, only that each of them respects the names.
  generalize matchers = list at respects ⊢
  induction list with
  | nil => rfl
  | cons matcher list inductionHypothesis =>
      rw [List.findSome?_cons, List.findSome?_cons,
        (respects matcher List.mem_cons_self).apply decoder upper]
      cases matcher.apply decoder site with
      | ok pattern => rfl
      | error refusal =>
          exact inductionHypothesis fun other member =>
            respects other (List.mem_cons_of_mem matcher member)

/-- Over other registers a handler is recognised as the same one. Only the pair that a pop
reveals and the registers that an exit restores are renamed. -/
theorem verdict_rename (names : Renaming) (decoder : Decoder) (upper : site.Uppercase) :
    (site.rename names).verdict decoder = (site.verdict decoder).rename names := by
  rw [verdict, verdict, pattern?_rename decoder upper, isStackGuard_rename upper, isJunk_rename]
  cases site.pattern? decoder with
  | some pattern => rfl
  | none =>
      cases site.isStackGuard with
      | true => rfl
      | false => cases site.isJunk <;> rfl

end Site

section Witness

open Simulation

/-- The registers for the bytecode and for the stack exchange their names. -/
def exchanged : Renaming :=
  .exchange "ESI" "EBP" (of_decide_eq_true (by cbv)) (of_decide_eq_true (by cbv))
    (by simp [reserved]) (by simp [reserved])
    (iff_of_false (not_mentions_of_short (by simp)) (not_mentions_of_short (by simp)))

/-- The decoder of a load at `0x1000`. -/
def loadDecoder : Decoder :=
  Table.decoder
    { instructions := [{
        address := 0x1000
        mnemonic := .mov
        operands := [⟨.register "EAX", 4⟩, ⟨.memory { base := some "EBP" }, 4⟩] }] }

/-- A pop of which no pair is known yet. -/
def popSite : Site :=
  { fragment := popHandler 0x1000, selection := .none }

/-- An exit where no pair is known. -/
def exitSite : Site :=
  { fragment := exitHandler 0x1000, selection := .none }

set_option maxRecDepth 2000

/-- A pop reveals the exchanged pair, and an exit restores the exchanged registers. -/
theorem exchanged_pop_and_exit :
    (popSite.Uppercase ∧ (popSite.rename exchanged).verdict loadDecoder =
        .handler (.popReg 4 0x1000 { code := "EBP", stack := "ESI" })) ∧
      exitSite.Uppercase ∧ (exitSite.rename exchanged).verdict loadDecoder =
        .handler
          (.exit ["EAX", "ECX", "EDX", "EBX", "ESI", "EBP", "EDI", "EFLAGS", "R8", "R9"]) := by
  have upper : popSite.Uppercase := of_decide_eq_true (by cbv)
  have upper' : exitSite.Uppercase := of_decide_eq_true (by cbv)
  refine ⟨⟨upper, ?_⟩, upper', ?_⟩
  · have recognised := pattern?_popHandler 0x1000 loadDecoder
      (show Selection.none.admits revealed = true from rfl)
    rw [Site.verdict_rename exchanged loadDecoder upper, Site.verdict, popSite, recognised]
    cbv
  · rw [Site.verdict_rename exchanged loadDecoder upper', exitSite, verdict_exitHandler]
    cbv

end Witness

end VmRecovery.Handler

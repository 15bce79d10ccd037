import Mathlib.Data.Option.Basic
import VmRecovery.Proofs.Handler.Exclusion
import VmRecovery.Proofs.Handler.Meaning
import VmRecovery.Proofs.Handler.Slots
import VmRecovery.Proofs.Ir.Padding

/-!
# Padded handlers are recognised as the plain ones

A handler with dead code at its end turns out to be what it is without that code (`verdict_pad`).
Every matcher starts at memory accesses and return bindings and follows inputs of operations from
there, so all that it looks at is mentioned by the plain handler (`ignores_of_mem`). The search for
the meaning of a result may take more steps in a larger fragment. Its length does not depend on that
bound, however, and so neither does what it finds (`meaning?_pad`). Two matchers go through all
operations: they look for copies into the flags and for reservations on the native stack, which is
why padding has none of these.
-/

namespace VmRecovery

open Handler Ir Native

namespace Ir.Fragment

variable {fragment other : Fragment} {padding : Padding} {id : ValueId} {op : Op}
  {pending : List Op} {steps : Nat} {result : Option BinaryOp}

/-! The meaning of a result. -/

/-- The inputs of a plain operation are defined by the operations that define them in the plain
fragment. -/
theorem inputDefinition?_pad (dead : padding.Dead fragment) (known : op ∈ fragment.ops)
    (place : Nat) :
    (fragment.pad padding).inputDefinition? op place = fragment.inputDefinition? op place :=
  Option.bind_congr fun _ found =>
    definingOp?_pad dead (.input known (List.mem_of_getElem? found))

/-- Whether an input is the result of a given opcode is told in the plain fragment. -/
theorem inputIs_pad (dead : padding.Dead fragment) (known : op ∈ fragment.ops) (place : Nat)
    (code : Opcode) :
    (fragment.pad padding).inputIs op place code = fragment.inputIs op place code := by
  rw [inputIs, inputIs, inputDefinition?_pad dead known]

/-- Which constant an input of a plain operation is, if any, is told in the plain fragment. -/
theorem inputConstant?_pad (dead : padding.Dead fragment) (known : op ∈ fragment.ops)
    (place : Nat) :
    op.inputs[place]?.bind (fragment.pad padding).constantOf? =
      op.inputs[place]?.bind fragment.constantOf? :=
  Option.bind_congr fun _ found =>
    constantOf?_pad dead (.input known (List.mem_of_getElem? found))

/-- Padding turns no input of a plain operation into a constant, and no constant into anything else.
-/
theorem inputIsConstant_pad (dead : padding.Dead fragment) (known : op ∈ fragment.ops)
    (place : Nat) :
    (fragment.pad padding).inputIsConstant op place = fragment.inputIsConstant op place := by
  rw [inputIsConstant, inputIsConstant, inputConstant?_pad dead known]

/-- A plain operation gives the same clue to the meaning of a result, with the same operations to
look at behind it. -/
theorem clue_pad (dead : padding.Dead fragment) (known : op ∈ fragment.ops) :
    (fragment.pad padding).clue op = fragment.clue op := by
  have joined : op.inputs.filterMap (fragment.pad padding).definingOp? =
      op.inputs.filterMap fragment.definingOp? :=
    List.filterMap_congr fun _ reads => definingOp?_pad dead (.input known reads)
  unfold clue
  rw [inputIsConstant_pad dead known]
  simp only [inputDefinition?_pad dead known, inputIs_pad dead known, joined]

/-- A search takes place in another fragment as well that tells the same about the operations it
can come to. -/
theorem Searches.of_clues {among : Op → Prop}
    (same : ∀ op, among op → other.clue op = fragment.clue op)
    (closed : ∀ op, among op → ∀ inner ∈ (fragment.clue op).behind, among inner)
    (search : fragment.Searches steps pending result) (all : ∀ op ∈ pending, among op) :
    other.Searches steps pending result := by
  induction search with
  | exhausted => exact .exhausted
  | @decided op rest meaning decides =>
      apply Searches.decided
      rwa [same op (all op List.mem_cons_self)]
  | @further op rest steps result undecided later inductionHypothesis =>
      have here := all op List.mem_cons_self
      apply Searches.further
      · rwa [same op here]
      · rw [same op here]
        apply inductionHypothesis
        intro next member
        rcases List.mem_append.mp member with behind | later
        · exact closed op here next behind
        · exact all next (List.mem_cons_of_mem _ later)

/-- The search from a plain operation comes to plain operations only, so it goes the same way with
the padding. -/
theorem searches_pad (dead : padding.Dead fragment) (known : op ∈ fragment.ops) :
    (fragment.pad padding).Searches steps [op] result ↔ fragment.Searches steps [op] result := by
  have start : ∀ first ∈ [op], first ∈ fragment.ops := by
    intro first member
    rwa [List.mem_singleton.mp member]
  have closed : ∀ op ∈ fragment.ops, ∀ inner ∈ (fragment.clue op).behind, inner ∈ fragment.ops :=
    fun op _ inner member => (mem_behind.mp member).mem_ops
  constructor
  · intro search
    refine search.of_clues (fun op known => (clue_pad dead known).symm) ?_ start
    intro op known
    rw [clue_pad dead known]
    exact closed op known
  · intro search
    exact search.of_clues (fun op => clue_pad dead) closed start

/-- The meaning of a result is the same whether the definitions are cyclic or not. -/
theorem meaning?_pad (dead : padding.Dead fragment) (known : op ∈ fragment.ops) :
    (fragment.pad padding).meaning? op = fragment.meaning? op := by
  have known' : op ∈ (fragment.pad padding).ops := Array.mem_append_left _ known
  apply Option.ext
  intro meaning
  rw [meaning?_eq_some_iff known, meaning?_eq_some_iff known']
  exact exists_congr fun steps => searches_pad dead known

/-! Slots, flags and reservations. -/

/-- The slot of a mentioned value is told by the same operation, since such a value has its plain
definition. -/
theorem slotOp?_pad (dead : padding.Dead fragment) (mentions : fragment.Mentions id) :
    (fragment.pad padding).slotOp? id = fragment.slotOp? id := by
  apply Option.bind_congr' (definingOp?_pad dead mentions)
  intro definition defined
  cases first : definition.inputs.head? with
  | none => rfl
  | some pointer =>
      have reads : fragment.Mentions pointer :=
        .input (mem_ops_of_definingOp? defined) (List.mem_of_mem_head? first)
      simp only [isInput_pad dead reads, definingOp?_pad dead reads]

/-- The operation that tells a slot is one of the fragment's. -/
theorem mem_ops_of_slotOp? (found : fragment.slotOp? id = some op) : op ∈ fragment.ops := by
  obtain ⟨definition, defined, found⟩ := Option.bind_eq_some_iff.mp found
  have known := mem_ops_of_definingOp? defined
  split at found
  · split at found
    · split at found
      · rwa [← Option.some.inj found]
      · exact mem_ops_of_definingOp? found
    · rwa [← Option.some.inj found]
  · rwa [← Option.some.inj found]

/-- A mentioned value was read from the same slot. -/
theorem slotOf?_pad (dead : padding.Dead fragment) (mentions : fragment.Mentions id) :
    (fragment.pad padding).slotOf? id = fragment.slotOf? id := by
  apply Option.bind_congr' (slotOp?_pad dead mentions)
  intro op found
  have known := mem_ops_of_slotOp? found
  rw [inputConstant?_pad dead known, inputConstant?_pad dead known]

/-- A slot restores the same register: bindings are left alone, and every bound value is mentioned.
-/
theorem restoredFrom?_pad (dead : padding.Dead fragment) (slot : UInt64) :
    (fragment.pad padding).restoredFrom? slot = fragment.restoredFrom? slot := by
  have same : ∀ binding ∈ fragment.returns,
      ((fragment.pad padding).slotOf? binding.2 == some slot) =
        (fragment.slotOf? binding.2 == some slot) := by
    intro binding bound
    rw [slotOf?_pad dead (.binding bound)]
  rw [restoredFrom?_eq, restoredFrom?_eq, returns_pad, List.filter_congr same]

/-- No copy into the flags is added, and the old ones copy into a mentioned value. -/
theorem reachesFlags_pad (dead : padding.Dead fragment) (id : ValueId) :
    (fragment.pad padding).reachesFlags id = fragment.reachesFlags id := by
  have copied : ∀ user ∈ fragment.ops,
      user.output.bind (fragment.pad padding).registerOf? =
        user.output.bind fragment.registerOf? := fun user known =>
    Option.bind_congr fun _ defines => registerOf?_pad dead (.output known defines)
  rw [Bool.eq_iff_iff]
  simp only [reachesFlags, usesOf, List.any_eq_true, List.mem_filter, Array.mem_toList_iff,
    Bool.and_eq_true, beq_iff_eq]
  constructor
  · rintro ⟨user, ⟨member, reads⟩, isCopy, flags⟩
    rcases Array.mem_append.mp member with known | added
    · rw [copied user known] at flags
      exact ⟨user, ⟨known, reads⟩, isCopy, flags⟩
    · exact absurd isCopy (dead.computes user added).2.2.1
  · rintro ⟨user, ⟨known, reads⟩, isCopy, flags⟩
    rw [← copied user known] at flags
    exact ⟨user, ⟨Array.mem_append_left _ known, reads⟩, isCopy, flags⟩

/-- A plain operation reserves native stack or not, whatever is added behind it. -/
theorem isStackReservation_pad (dead : padding.Dead fragment) (known : op ∈ fragment.ops) :
    (fragment.pad padding).isStackReservation op = fragment.isStackReservation op := by
  unfold isStackReservation
  cases first : op.inputs.head? with
  | none => rfl
  | some base =>
      have reads : fragment.Mentions base := .input known (List.mem_of_mem_head? first)
      simp only [Option.any_some, isInput_pad dead reads, registerOf?_pad dead reads]

/-- Dead code reserves no native stack. -/
theorem any_isStackReservation_pad (dead : padding.Dead fragment) :
    (fragment.pad padding).ops.any (fragment.pad padding).isStackReservation =
      fragment.ops.any fragment.isStackReservation := by
  rw [Bool.eq_iff_iff, Array.any_eq_true', Array.any_eq_true']
  constructor
  · rintro ⟨op, member, reserves⟩
    rcases Array.mem_append.mp member with known | added
    · exact ⟨op, known, by rwa [← isStackReservation_pad dead known]⟩
    · rw [isStackReservation, beq_false_of_ne (dead.computes op added).2.2.2] at reserves
      cases reserves
  · rintro ⟨op, known, reserves⟩
    exact ⟨op, Array.mem_append_left _ known, by rwa [isStackReservation_pad dead known]⟩

end Ir.Fragment

namespace Handler

/-- The handler with code added at its end. -/
def Site.pad (site : Site) (padding : Padding) : Site :=
  { site with fragment := site.fragment.pad padding }

/-- A shape is found in a padded handler exactly if it is found in the plain one. -/
def Ignores (shape : Site → Option Draft) : Prop :=
  ∀ (site : Site) (padding : Padding), padding.Dead site.fragment →
    shape (site.pad padding) = shape site

namespace Site

variable {site : Site} {padding : Padding} {op : Op}

/-! What the matchers look at. -/

@[simp] theorem selection_pad : (site.pad padding).selection = site.selection :=
  rfl

/-- Dead code writes no memory, so the handler has its plain writes. -/
theorem stores_pad (dead : padding.Dead site.fragment) :
    (site.pad padding).stores = site.stores :=
  Fragment.stores_pad dead

/-- Dead code reads no memory, so the handler has its plain reads. -/
theorem loads_pad (dead : padding.Dead site.fragment) :
    (site.pad padding).loads = site.loads :=
  Fragment.loads_pad dead

/-- The numbers of writes and reads are the plain ones. -/
theorem traffic_pad (dead : padding.Dead site.fragment) :
    (site.pad padding).traffic = site.traffic := by
  rw [traffic, traffic, stores_pad dead, loads_pad dead]

/-- A write of a handler is an operation of its fragment. -/
theorem mem_ops_of_mem_stores (member : op ∈ site.stores) : op ∈ site.fragment.ops :=
  Fragment.mem_ops_of_mem_opsOf member

/-- A read of a handler is an operation of its fragment. -/
theorem mem_ops_of_mem_loads (member : op ∈ site.loads) : op ∈ site.fragment.ops :=
  Fragment.mem_ops_of_mem_opsOf member

/-- The first write of a handler is an operation of its fragment. -/
theorem mem_ops_of_head?_stores (first : site.stores.head? = some op) : op ∈ site.fragment.ops :=
  mem_ops_of_mem_stores (List.mem_of_mem_head? first)

/-- The inputs of a plain operation come from the same origins. -/
theorem inputOrigins_pad (dead : padding.Dead site.fragment) (known : op ∈ site.fragment.ops)
    (place : Nat) : (site.pad padding).inputOrigins op place = site.inputOrigins op place := by
  unfold inputOrigins
  cases found : op.inputs[place]? with
  | none => rfl
  | some value => exact Fragment.origins_pad dead (.input known (List.mem_of_getElem? found))

/-- The address of a plain write comes from the same origins. -/
theorem targetOrigins_pad (dead : padding.Dead site.fragment) (known : op ∈ site.fragment.ops) :
    (site.pad padding).targetOrigins op = site.targetOrigins op :=
  inputOrigins_pad dead known 0

/-- The value of a plain write comes from the same origins. -/
theorem sourceOrigins_pad (dead : padding.Dead site.fragment) (known : op ∈ site.fragment.ops) :
    (site.pad padding).sourceOrigins op = site.sourceOrigins op :=
  inputOrigins_pad dead known 1

/-- The value of a plain write is defined by the same operation. -/
theorem sourceDefinition?_pad (dead : padding.Dead site.fragment)
    (known : op ∈ site.fragment.ops) :
    (site.pad padding).sourceDefinition? op = site.sourceDefinition? op :=
  Fragment.inputDefinition?_pad dead known 1

/-- The definition of a written value is an operation of the fragment. -/
theorem mem_ops_of_sourceDefinition? {definition : Op}
    (defines : site.sourceDefinition? op = some definition) : definition ∈ site.fragment.ops := by
  obtain ⟨value, -, defined⟩ := Option.bind_eq_some_iff.mp defines
  exact Fragment.mem_ops_of_definingOp? defined

/-- A plain access goes through the same register. -/
theorem pointerRegister?_pad (dead : padding.Dead site.fragment)
    (known : op ∈ site.fragment.ops) :
    (site.pad padding).pointerRegister? op = site.pointerRegister? op :=
  Option.bind_congr fun _ first =>
    Fragment.registerOf?_pad dead (.input known (List.mem_of_mem_head? first))

/-- What a register holds at the return comes from the same origins. -/
theorem returnOrigins?_pad (dead : padding.Dead site.fragment) (register : String) :
    (site.pad padding).returnOrigins? register = site.returnOrigins? register := by
  unfold returnOrigins? Fragment.returnBinding?
  rw [pad, Fragment.returns_pad, Option.map_map, Option.map_map]
  apply Option.map_congr
  intro binding found
  exact Fragment.origins_pad dead (.binding (List.mem_of_find?_eq_some found))

/-! Handlers that move one value. -/

/-- A handler reveals the same pair of registers. -/
theorem revealedPair?_pad (dead : padding.Dead site.fragment) :
    (site.pad padding).revealedPair? = site.revealedPair? := by
  unfold revealedPair?
  rw [traffic_pad dead, stores_pad dead]
  cases first : site.stores.head? with
  | none => rfl
  | some store =>
      have known := mem_ops_of_head?_stores first
      simp only [sourceOrigins_pad dead known, targetOrigins_pad dead known]

/-- The write by which a value is pushed is the plain one. -/
theorem pushStore?_pad (dead : padding.Dead site.fragment) (stack : String) :
    (site.pad padding).pushStore? stack = site.pushStore? stack := by
  unfold pushStore?
  rw [stores_pad dead]
  split
  · rename_i store single
    have known : store ∈ site.fragment.ops :=
      mem_ops_of_mem_stores (single ▸ List.mem_singleton_self store)
    rw [targetOrigins_pad dead known]
  · rfl

/-- The write by which a value is pushed is an operation of the fragment. -/
theorem mem_ops_of_pushStore? {stack : String} (pushes : site.pushStore? stack = some op) :
    op ∈ site.fragment.ops := by
  obtain ⟨-, first, -⟩ := pushStore?_shape pushes
  exact mem_ops_of_head?_stores first

/-- A push of a virtual register is made out by the pushed value, which is plain. -/
theorem ignores_pushReg : Ignores pushReg? := by
  intro site padding dead
  apply Option.bind_congr' rfl
  intro pair _
  rw [loads_pad dead]
  apply if_congr Iff.rfl rfl
  apply Option.bind_congr' (pushStore?_pad dead _)
  intro store pushes
  rw [sourceOrigins_pad dead (mem_ops_of_pushStore? pushes)]

/-- A push of an operand is made out by the pushed value, which is plain. -/
theorem ignores_pushImm : Ignores pushImm? := by
  intro site padding dead
  apply Option.bind_congr' rfl
  intro pair _
  rw [loads_pad dead]
  apply if_congr Iff.rfl rfl
  apply Option.bind_congr' (pushStore?_pad dead _)
  intro store pushes
  rw [sourceOrigins_pad dead (mem_ops_of_pushStore? pushes)]

/-- A push of the stack pointer is made out by the pushed value, which is plain. -/
theorem ignores_pushVsp : Ignores pushVsp? := by
  intro site padding dead
  apply Option.bind_congr' rfl
  intro stack _
  rw [traffic_pad dead, stores_pad dead]
  apply if_congr Iff.rfl rfl
  apply Option.bind_congr
  intro store first
  have known := mem_ops_of_head?_stores first
  rw [targetOrigins_pad dead known, sourceOrigins_pad dead known]

/-- A memory access is made out by the origins of its write. -/
theorem ignores_memAccess : Ignores memAccess? := by
  intro site padding dead
  apply Option.bind_congr' rfl
  intro stack _
  rw [traffic_pad dead, stores_pad dead, loads_pad dead]
  apply if_congr Iff.rfl rfl
  apply Option.bind_congr
  intro store first
  have known := mem_ops_of_head?_stores first
  rw [targetOrigins_pad dead known, sourceOrigins_pad dead known]

/-! Handlers that compute. -/

/-- The write of a computed result is the plain one. -/
theorem resultStore?_pad (dead : padding.Dead site.fragment) :
    (site.pad padding).resultStore? = site.resultStore? := by
  apply Option.bind_congr' rfl
  intro stack _
  rw [stores_pad dead]
  apply Option.bind_congr
  intro store first
  have known := mem_ops_of_head?_stores first
  rw [targetOrigins_pad dead known, sourceOrigins_pad dead known]

/-- The write of a computed result is an operation of the fragment. -/
theorem mem_ops_of_resultStore? (writes : site.resultStore? = some op) :
    op ∈ site.fragment.ops := by
  obtain ⟨stack, -, writes⟩ := Option.bind_eq_some_iff.mp writes
  obtain ⟨store, first, writes⟩ := Option.bind_eq_some_iff.mp writes
  split at writes
  · obtain ⟨-, same⟩ := Option.ite_none_right_eq_some.mp writes
    rw [← Option.some.inj same]
    exact mem_ops_of_head?_stores first
  · cases writes

/-- A binary operation is made out by the meaning of its result, which padding does not change. -/
theorem ignores_binary : Ignores binary? := by
  intro site padding dead
  unfold binary?
  rw [traffic_pad dead, loads_pad dead]
  apply if_congr Iff.rfl rfl
  apply Option.bind_congr' (resultStore?_pad dead)
  intro store writes
  have known := mem_ops_of_resultStore? writes
  apply Option.bind_congr' (sourceDefinition?_pad dead known)
  intro definition defines
  have known' := mem_ops_of_sourceDefinition? defines
  exact Option.bind_congr' (Fragment.meaning?_pad dead known') fun op _ => rfl

/-- A double shift is made out by its write and the definition of the written result. -/
theorem ignores_doubleShift : Ignores doubleShift? := by
  intro site padding dead
  unfold doubleShift?
  rw [traffic_pad dead, loads_pad dead]
  apply if_congr Iff.rfl rfl
  apply Option.bind_congr' (resultStore?_pad dead)
  intro store writes
  have known := mem_ops_of_resultStore? writes
  exact Option.bind_congr' (sourceDefinition?_pad dead known) fun definition _ => rfl

/-- A processor query is made out by the origins of its written values. -/
theorem ignores_cpuid : Ignores cpuid? := by
  intro site padding dead
  have same : site.stores.all (site.pad padding).isIdentification =
      site.stores.all site.isIdentification := by
    rw [Bool.eq_iff_iff, List.all_eq_true, List.all_eq_true]
    apply forall₂_congr
    intro store member
    rw [isIdentification, isIdentification, sourceOrigins_pad dead (mem_ops_of_mem_stores member)]
  rw [cpuid?, cpuid?, stores_pad dead, same]

/-- A multiplication is made out by the origins of its first write. -/
theorem ignores_mul : Ignores mul? := by
  intro site padding dead
  apply Option.bind_congr' rfl
  intro stack _
  rw [traffic_pad dead, stores_pad dead, loads_pad dead]
  apply if_congr Iff.rfl rfl
  apply Option.bind_congr
  intro store first
  have known := mem_ops_of_head?_stores first
  rw [targetOrigins_pad dead known, sourceOrigins_pad dead known, sourceDefinition?_pad dead known]

/-! Handlers that change where execution goes on. -/

/-- A jump to a constant is made out by what `EIP` is bound to at the return. -/
theorem ignores_jmpConst : Ignores jmpConst? := by
  intro site padding dead
  rw [jmpConst?, jmpConst?, traffic_pad dead, returnOrigins?_pad dead]

/-- A jump is made out by the pointers of its reads. -/
theorem ignores_jmp : Ignores jmp? := by
  intro site padding dead
  apply Option.bind_congr' rfl
  intro stack _
  rw [stores_pad dead, loads_pad dead]
  split
  · rename_i load _ single
    have known : load ∈ site.fragment.ops := mem_ops_of_mem_loads (by simp [single])
    rw [pointerRegister?_pad dead known]
  · rename_i first second _ both
    have known : first ∈ site.fragment.ops := mem_ops_of_mem_loads (by simp [both])
    have known' : second ∈ site.fragment.ops := mem_ops_of_mem_loads (by simp [both])
    rw [pointerRegister?_pad dead known, inputOrigins_pad dead known']
  · rfl

/-- A write of the stack pointer is made out by what the stack register is bound to at the return.
-/
theorem ignores_writeVsp : Ignores writeVsp? := by
  intro site padding dead
  apply Option.bind_congr' rfl
  intro stack _
  rw [traffic_pad dead, returnOrigins?_pad dead]

/-- A pop of the flags is made out by the copies into the flags, none of which is added. -/
theorem ignores_popfd : Ignores popfd? := by
  intro site padding dead
  apply Option.bind_congr' rfl
  intro stack _
  rw [stores_pad dead, loads_pad dead]
  split
  · rename_i load others _ loads
    have known : load ∈ site.fragment.ops := mem_ops_of_mem_loads (by simp [loads])
    rw [pointerRegister?_pad dead known]
    refine if_congr Iff.rfl (Option.bind_congr' rfl ?_) rfl
    intro value _
    rw [pad, Fragment.reachesFlags_pad dead]
  · rfl

/-- An exit is made out by its restored registers. -/
theorem ignores_exit : Ignores exit? := by
  intro site padding dead
  have restored : (site.pad padding).fragment.restoredFrom? = site.fragment.restoredFrom? :=
    funext (Fragment.restoredFrom?_pad dead)
  rw [exit?, exit?, loads_pad dead, restored]

/-- A stack guard is told by its traffic and by a reservation, neither of which dead code has. -/
theorem isStackGuard_pad (dead : padding.Dead site.fragment) :
    (site.pad padding).isStackGuard = site.isStackGuard := by
  rw [isStackGuard, isStackGuard, traffic_pad dead, pad,
    Fragment.any_isStackReservation_pad dead]

/-- Junk is told by its traffic, and dead code has none. -/
theorem isJunk_pad (dead : padding.Dead site.fragment) :
    (site.pad padding).isJunk = site.isJunk := by
  rw [isJunk, isJunk, traffic_pad dead]

end Site

/-! Matchers. -/

/-- A matcher drafts the same for a padded handler, and declines it for the same reason. -/
def Matcher.Ignores (matcher : Matcher) : Prop :=
  ∀ (site : Site) (padding : Padding), padding.Dead site.fragment →
    matcher.draft (site.pad padding) = matcher.draft site

/-- A matcher that only looks for a shape ignores dead code if its shape does. -/
theorem Matcher.ignores_ofShape {name : String} {shape : Site → Option Draft}
    (ignores : Handler.Ignores shape) : (Matcher.ofShape name shape).Ignores := by
  intro site padding dead
  simp only [ofShape, ignores site padding dead]

/-- The matcher of pops ignores dead code, also where it declines a handler. -/
theorem ignores_popReg : popRegMatcher.Ignores := by
  intro site padding dead
  dsimp only [popRegMatcher]
  rw [Site.revealedPair?_pad dead, Site.selection_pad]

/-- No matcher sees dead code. -/
theorem ignores_of_mem : ∀ matcher ∈ matchers, matcher.Ignores := by
  intro matcher member
  simp only [matchers, mainMatchers, transferMatchers, arithmeticMatchers, controlMatchers,
    fallbackMatchers, List.mem_append, List.mem_cons, List.not_mem_nil, or_false] at member
  rcases member with (((rfl | rfl | rfl | rfl | rfl) | rfl | rfl | rfl | rfl) | rfl | rfl | rfl) |
    rfl | rfl
  · exact ignores_popReg
  · exact Matcher.ignores_ofShape Site.ignores_pushReg
  · exact Matcher.ignores_ofShape Site.ignores_pushImm
  · exact Matcher.ignores_ofShape Site.ignores_pushVsp
  · exact Matcher.ignores_ofShape Site.ignores_memAccess
  · exact Matcher.ignores_ofShape Site.ignores_binary
  · exact Matcher.ignores_ofShape Site.ignores_doubleShift
  · exact Matcher.ignores_ofShape Site.ignores_cpuid
  · exact Matcher.ignores_ofShape Site.ignores_mul
  · exact Matcher.ignores_ofShape Site.ignores_jmpConst
  · exact Matcher.ignores_ofShape Site.ignores_jmp
  · exact Matcher.ignores_ofShape Site.ignores_writeVsp
  · exact Matcher.ignores_ofShape Site.ignores_popfd
  · exact Matcher.ignores_ofShape Site.ignores_exit

namespace Site

variable {site : Site} {padding : Padding}

/-- The battery comes to the same pattern, since each of its matchers drafts the same. -/
theorem pattern?_pad (decoder : Decoder) (dead : padding.Dead site.fragment) :
    (site.pad padding).pattern? decoder = site.pattern? decoder := by
  have same : ∀ matcher ∈ matchers,
      (matcher.apply decoder (site.pad padding)).toOption =
        (matcher.apply decoder site).toOption := by
    intro matcher member
    rw [Matcher.apply, Matcher.apply, ignores_of_mem matcher member site padding dead]
  rw [pattern?, pattern?, ← List.head?_filterMap, ← List.head?_filterMap,
    List.filterMap_congr same]

end Site

/-- Dead code does not change what a handler turns out to be, whatever it computes, wherever its
results live and whichever pair is selected. -/
theorem verdict_pad (site : Site) (decoder : Decoder) (padding : Padding)
    (dead : padding.Dead site.fragment) :
    (site.pad padding).verdict decoder = site.verdict decoder := by
  rw [Site.verdict, Site.verdict, Site.pattern?_pad decoder dead, Site.isStackGuard_pad dead,
    Site.isJunk_pad dead]

/-- A reservation is not dead: at the end of junk it makes a stack guard. -/
example (decoder : Decoder) :
    let junk : Site := ⟨{ entry := 0, values := #[⟨.register "ESP", 4, none⟩] }, .none⟩
    let reservation : Padding := ⟨#[], #[⟨0, .ptrSub, [0], none⟩]⟩
    junk.verdict decoder = .junk ∧ (junk.pad reservation).verdict decoder = .stackGuard := by
  constructor
  · cbv
  · cbv

section Witness

open Simulation

/-- A sum of two values from the stack at `EBP`. The flags that it writes were not lifted, so the
value of the second memory write denotes nothing. -/
def sumSite : Site where
  fragment :=
    { entry := 0x401000
      values :=
        #[⟨.register "EBP", 4, none⟩, ⟨.temporary, 4, some 0⟩, ⟨.temporary, 4, some 1⟩,
          ⟨.temporary, 4, some 2⟩, ⟨.temporary, 4, some 5⟩]
      ops :=
        #[⟨0x401000, .load, [0], some 1⟩, ⟨0x401003, .load, [0], some 2⟩,
          ⟨0x401006, .intAdd, [1, 2], some 3⟩, ⟨0x401008, .store, [0, 3], none⟩,
          ⟨0x40100b, .store, [0, 99], none⟩, ⟨0x40100e, .load, [0], some 4⟩] }
  selection := .of revealed

/-- Two operations that nothing depends on. The second result is kept in the flags. -/
def noise : Padding where
  values := #[⟨.temporary, 4, some 6⟩, ⟨.register "EFLAGS", 4, some 7⟩]
  ops := #[⟨0x401011, .intXor, [3, 1], some 5⟩, ⟨0x401013, .intSub, [5, 99], some 6⟩]

/-- The noise is dead code for the sum: its inputs are old or its own, and its results are new. -/
theorem noise_dead : noise.Dead sumSite.fragment := by
  have inputs : ∀ op ∈ sumSite.fragment.ops, ∀ id ∈ op.inputs, ¬ (5 ≤ id ∧ id < 7) := by decide
  have outputs : ∀ op ∈ sumSite.fragment.ops, ∀ id ∈ op.output, ¬ (5 ≤ id ∧ id < 7) := by decide
  constructor
  · decide
  · rintro id (⟨known, reads⟩ | ⟨known, defines⟩ | bound)
    · exact inputs _ known id reads
    · exact outputs _ known id defines
    · cases bound
  · decide

/-- Without the noise the site is recognised as a sum. -/
theorem verdict_sumSite : sumSite.verdict loadTable = .handler (.binary .add 4) := by
  have traffic : sumSite.traffic = (2, 3) := by decide
  have writes : sumSite.resultStore? = some ⟨0x401008, .store, [0, 3], none⟩ := by cbv
  have sums : sumSite.binary? = some (.sized 1 0x401000 (.binary .add)) := by
    rw [Site.binary?, if_neg (not_not.mpr traffic), writes]
    rfl
  have applied : (Matcher.ofShape "binary" Site.binary?).apply loadTable sumSite =
      .ok (.binary .add 4) := by
    simp only [Matcher.apply, Matcher.ofShape, sums]
    cbv
  have declined : (transferMatchers.findSome? fun matcher =>
      (matcher.apply loadTable sumSite).toOption) = none := by
    cbv
  rw [Site.verdict, Site.pattern?, matchers, mainMatchers, List.append_assoc, List.append_assoc,
    List.findSome?_append, declined]
  simp [arithmeticMatchers, applied, Except.toOption]

/-- A lifter that appends an exclusive disjunction and a difference adds the noise, and the sum is
still recognised. -/
theorem sumSite_with_noise :
    (Build.emitInto 0x401013 .intSub [5, 99] (.register "EFLAGS") 4).run
        ((Build.emit 0x401011 .intXor [3, 1] 4).run sumSite.fragment).2 =
          (6, (sumSite.pad noise).fragment) ∧
      noise.Dead sumSite.fragment ∧
      (sumSite.pad noise).verdict loadTable = .handler (.binary .add 4) := by
  refine ⟨?_, noise_dead, ?_⟩
  · rw [Build.emit, Fragment.emitInto_run, Fragment.emitInto_run, Fragment.pad_pad]
    rfl
  · rw [verdict_pad sumSite loadTable noise noise_dead]
    exact verdict_sumSite

end Witness

end Handler

end VmRecovery

import Mathlib
import VmRecovery.Ir.Builder
import VmRecovery.Proofs.Handler.Meaning

/-!
# Fragments as they are built

An action appends a value, an operation, or an operation together with its result, and changes
nothing that is there (`perform_steps`). Whatever a lifter asks for, also with indices that denote
nothing, the values and the operations of the fragment therefore point at each other
(`Linked.build`).

An index that denotes nothing yet may denote a value later on, and even the one that it helps to
define (`early_index_closes_cycle`). If every action refers to values that are there, this cannot
happen: operations read earlier values than the one that they produce (`Ordered.build`), so that
whatever follows the definitions comes to an end.
-/

namespace VmRecovery.Ir

/-- A builder action with its arguments. -/
inductive Action where
  | input (name : String) (size : UInt8)
  | stackInput (offset : Int64) (size : UInt8)
  | constant (value : UInt64) (size : UInt8)
  | emit (address : UInt64) (code : Opcode) (inputs : List ValueId) (size : UInt8)
  | emitInto (address : UInt64) (code : Opcode) (inputs : List ValueId) (location : Location)
      (size : UInt8)
  | load (address : UInt64) (pointer : ValueId) (size : UInt8)
  | store (address : UInt64) (pointer value : ValueId)
  | copyTo (address : UInt64) (value : ValueId) (location : Location)
  | ret (address : UInt64) (bindings : List (String × ValueId))
  deriving DecidableEq, Repr

/-- The index that an action answers. -/
inductive Answer where
  | value (id : ValueId)
  | op (id : OpId)
  deriving DecidableEq, Repr

namespace Action

/-- Performs an action on the fragment under construction. -/
def perform : Action → Build Answer
  | input name size => .value <$> Build.input name size
  | stackInput offset size => .value <$> Build.stackInput offset size
  | constant value size => .value <$> Build.constant value size
  | emit address code inputs size => .value <$> Build.emit address code inputs size
  | emitInto address code inputs location size =>
      .value <$> Build.emitInto address code inputs location size
  | load address pointer size => .value <$> Build.load address pointer size
  | store address pointer value => .op <$> Build.store address pointer value
  | copyTo address value location => .value <$> Build.copyTo address value location
  | ret address bindings => .op <$> Build.ret address bindings

/-- The values that an action refers to. -/
def arguments : Action → List ValueId
  | input _ _ => []
  | stackInput _ _ => []
  | constant _ _ => []
  | emit _ _ inputs _ => inputs
  | emitInto _ _ inputs _ _ => inputs
  | load _ pointer _ => [pointer]
  | store _ pointer value => [pointer, value]
  | copyTo _ value _ => [value]
  | ret _ bindings => bindings.map Prod.snd

end Action

namespace Fragment

variable {before after fragment : Fragment} {arguments : List ValueId} {answer : Answer}
  {actions : List Action} {id other : ValueId} {link : OpId} {op : Op} {value : Value}
  {name : String} {returns : List (String × ValueId)}

/-- The fragment after some actions. -/
def build (fragment : Fragment) (actions : List Action) : Fragment :=
  actions.foldl (fun fragment action => (action.perform.run fragment).2) fragment

/-- Every action refers only to values that are there when it is performed. -/
def ReadsKnown : Fragment → List Action → Prop
  | _, [] => True
  | fragment, action :: rest =>
      (∀ id ∈ action.arguments, id < fragment.values.size) ∧
        ReadsKnown (action.perform.run fragment).2 rest

instance decidableReadsKnown :
    (fragment : Fragment) → (actions : List Action) → Decidable (ReadsKnown fragment actions)
  | _, [] => inferInstanceAs (Decidable True)
  | fragment, action :: rest =>
      have := decidableReadsKnown (action.perform.run fragment).2 rest
      inferInstanceAs (Decidable (_ ∧ _))

/-- What an index stands for. -/
def denoted? (fragment : Fragment) : Answer → Option (Value ⊕ Op)
  | .value id => (fragment.value? id).map .inl
  | .op id => (fragment.op? id).map .inr

/-- A value is the output of an operation. -/
def Produces (fragment : Fragment) (link : OpId) (id : ValueId) : Prop :=
  ∃ op, fragment.op? link = some op ∧ op.output = some id

/-- A value is recorded as defined by an operation. -/
def DefinedBy (fragment : Fragment) (id : ValueId) (link : OpId) : Prop :=
  ∃ value, fragment.value? id = some value ∧ value.definedBy = some link

/-- A value is the incoming one of a register. -/
def Incoming (fragment : Fragment) (name : String) (id : ValueId) : Prop :=
  ∃ value, fragment.value? id = some value ∧ value.definedBy = none ∧
    value.location = .register name

/-- Values and operations point at each other, and a register has one incoming value at most. -/
structure Linked (fragment : Fragment) : Prop where
  inverse : ∀ link id, fragment.Produces link id ↔ fragment.DefinedBy id link
  resolves : ∀ id link, fragment.DefinedBy id link →
    ∃ op, fragment.op? link = some op ∧ fragment.definingOp? id = some op
  distinct : ∀ name id other, fragment.Incoming name id → fragment.Incoming name other → id = other

/-- Operations read earlier values than the one that they produce. -/
def Ordered (fragment : Fragment) : Prop :=
  ∀ op ∈ fragment.ops, ∀ output ∈ op.output, ∀ input ∈ op.inputs, input < output

/-! One action. -/

/-- What an action makes of a fragment, and what it answers. -/
inductive Step (before : Fragment) (arguments : List ValueId) : Answer → Fragment → Prop where
  /-- The incoming value of a register is there already. -/
  | known {id : ValueId} {value : Value} (isValue : before.value? id = some value) :
      Step before arguments (.value id) before
  | incoming {value : Value} (undefined : value.definedBy = none)
      (new : ∀ name id, value.location = .register name → ¬ before.Incoming name id) :
      Step before arguments (.value before.values.size)
        { before with values := before.values.push value }
  /-- An operation on the arguments, and its result. -/
  | result (address : UInt64) (code : Opcode) (location : Location) (size : UInt8) :
      Step before arguments (.value before.values.size)
        { before with
          values := before.values.push ⟨location, size, some before.ops.size⟩
          ops := before.ops.push ⟨address, code, arguments, some before.values.size⟩ }
  | effect {op : Op} (noResult : op.output = none) (returns : List (String × ValueId)) :
      Step before arguments (.op before.ops.size)
        { before with ops := before.ops.push op, returns }

/-- The incoming value of a register is appended unless the fragment has it. -/
theorem input_run (before : Fragment) (name : String) (size : UInt8) :
    (Build.input name size).run before =
      match before.values.findIdx? fun value =>
          value.definedBy.isNone && value.location == .register (name.map Char.toUpper) with
      | some id => (id, before)
      | none =>
          (before.values.size,
            { before with
              values := before.values.push ⟨.register (name.map Char.toUpper), size, none⟩ }) := by
  simp only [Build.input, bind, StateT.bind, get, getThe, MonadStateOf.get, StateT.get, pure,
    StateT.run]
  split <;> simp only [*] <;> rfl

/-- The incoming value of a register is there already, or it is appended. -/
theorem input_steps (before : Fragment) (name : String) (size : UInt8) :
    before.Step [] (.value ((Build.input name size).run before).1)
      ((Build.input name size).run before).2 := by
  rw [input_run]
  split
  · rename_i id found
    obtain ⟨inside, -⟩ := Array.findIdx?_eq_some_iff_getElem.mp found
    exact .known (Array.getElem?_eq_getElem inside)
  · rename_i missing
    refine .incoming rfl ?_
    rintro other id same ⟨value, isValue, undefined, location⟩
    have unlike := Array.findIdx?_eq_none_iff.mp missing value (Array.mem_of_getElem? isValue)
    simp_all

/-- Every action appends what its kind says, and answers with the index of it. -/
theorem perform_steps (before : Fragment) (action : Action) :
    before.Step action.arguments (action.perform.run before).1 (action.perform.run before).2 := by
  cases action with
  | input name size => exact input_steps before name size
  | stackInput offset size => exact .incoming rfl (by simp)
  | constant value size => exact .incoming rfl (by simp)
  | emit address code inputs size => exact .result address code .temporary size
  | emitInto address code inputs location size => exact .result address code location size
  | load address pointer size => exact .result address .load .temporary size
  | store address pointer value => exact .effect rfl before.returns
  | copyTo address value location => exact .result address .copy location _
  | ret address bindings => exact .effect rfl _

/-! What a step adds. -/

/-- An appended operation produces its own result, and the others what they did before. -/
theorem produces_push (added : after.ops = before.ops.push op) :
    after.Produces link id ↔
      link = before.ops.size ∧ op.output = some id ∨ before.Produces link id := by
  simp only [Produces, op?, added, Array.getElem?_push]
  by_cases last : link = before.ops.size
  · simp [last]
  · simp [last]

/-- An appended value is defined by the operation that it records, and the others as before. -/
theorem definedBy_push (added : after.values = before.values.push value) :
    after.DefinedBy id link ↔
      id = before.values.size ∧ value.definedBy = some link ∨ before.DefinedBy id link := by
  simp only [DefinedBy, value?, added, Array.getElem?_push]
  by_cases last : id = before.values.size
  · simp [last]
  · simp [last]

/-- An appended value is incoming if it is a register without a definition. -/
theorem incoming_push (added : after.values = before.values.push value) :
    after.Incoming name id ↔
      id = before.values.size ∧ value.definedBy = none ∧ value.location = .register name ∨
        before.Incoming name id := by
  simp only [Incoming, value?, added, Array.getElem?_push]
  by_cases last : id = before.values.size
  · simp [last]
  · simp [last]

/-! What every step keeps. -/

/-- What an index stands for stays the same when an action is performed. -/
theorem Step.denoted?_eq {thing : Value ⊕ Op} {earlier : Answer}
    (step : before.Step arguments answer after)
    (denotes : before.denoted? earlier = some thing) :
    after.denoted? earlier = some thing := by
  have kept : ∀ {α : Type} {things : Array α} {index : Nat} {thing new : α},
      things[index]? = some thing → (things.push new)[index]? = some thing := by
    intro α things index thing new isThing
    obtain ⟨inside, -⟩ := Array.getElem?_eq_some_iff.mp isThing
    rw [Array.getElem?_push, if_neg (Nat.ne_of_lt inside), isThing]
  cases earlier with
  | value id =>
      obtain ⟨value, isValue, rfl⟩ := Option.map_eq_some_iff.mp denotes
      cases step with
      | known _ => exact denotes
      | incoming _ _ => simp [denoted?, value?, kept isValue]
      | result _ _ _ _ => simp [denoted?, value?, kept isValue]
      | effect _ _ => exact denotes
  | op id =>
      obtain ⟨op, isOp, rfl⟩ := Option.map_eq_some_iff.mp denotes
      cases step with
      | known _ => exact denotes
      | incoming _ _ => exact denotes
      | result _ _ _ _ => simp [denoted?, op?, kept isOp]
      | effect _ _ => simp [denoted?, op?, kept isOp]

/-- What a step answers stands for something. -/
theorem Step.exists_denoted (step : before.Step arguments answer after) :
    ∃ thing, after.denoted? answer = some thing := by
  cases step with
  | known isValue => exact ⟨_, by rw [denoted?, isValue]; rfl⟩
  | incoming _ _ => exact ⟨_, by simp [denoted?, value?]; rfl⟩
  | result _ _ _ _ => exact ⟨_, by simp [denoted?, value?]; rfl⟩
  | effect _ _ => exact ⟨_, by simp [denoted?, op?]; rfl⟩

/-- A step adds a definition together with the output that it belongs to, or neither. -/
theorem Step.inverse (step : before.Step arguments answer after)
    (inverse : ∀ link id, before.Produces link id ↔ before.DefinedBy id link) (link : OpId)
    (id : ValueId) : after.Produces link id ↔ after.DefinedBy id link := by
  cases step with
  | known _ => exact inverse link id
  | incoming undefined _ =>
      refine (inverse link id).trans (Iff.trans ?_ (definedBy_push rfl).symm)
      simp [undefined]
  | result address code location size =>
      refine (produces_push rfl).trans (Iff.trans ?_ (definedBy_push rfl).symm)
      simp only [inverse, Option.some.injEq]
      rw [and_comm, eq_comm, @eq_comm _ link]
  | effect noResult returns =>
      refine (produces_push rfl).trans (Iff.trans ?_ (inverse link id))
      simp [noResult]

/-- A step adds an incoming value only for a register without one. -/
theorem Step.distinct (step : before.Step arguments answer after)
    (distinct : ∀ name id other, before.Incoming name id → before.Incoming name other → id = other)
    (name : String) (id other : ValueId) (first : after.Incoming name id)
    (second : after.Incoming name other) : id = other := by
  cases step with
  | known _ => exact distinct name id other first second
  | incoming _ new =>
      rcases (incoming_push rfl).mp first with ⟨rfl, -, location⟩ | old
      · rcases (incoming_push rfl).mp second with ⟨rfl, -, -⟩ | old'
        · rfl
        · exact absurd old' (new name other location)
      · rcases (incoming_push rfl).mp second with ⟨rfl, -, location⟩ | old'
        · exact absurd old (new name id location)
        · exact distinct name id other old old'
  | result address code location size =>
      rcases (incoming_push rfl).mp first with ⟨-, undefined, -⟩ | old
      · cases undefined
      · rcases (incoming_push rfl).mp second with ⟨-, undefined, -⟩ | old'
        · cases undefined
        · exact distinct name id other old old'
  | effect _ _ => exact distinct name id other first second

/-- An action on values that are there keeps operations behind the values that they read. -/
theorem Step.ordered (step : before.Step arguments answer after)
    (known : ∀ id ∈ arguments, id < before.values.size) (ordered : before.Ordered) :
    after.Ordered := by
  cases step with
  | known _ => exact ordered
  | incoming _ _ => exact ordered
  | result address code location size =>
      intro op member output produces input reads
      rcases Array.mem_push.mp member with old | rfl
      · exact ordered op old output produces input reads
      · cases produces
        exact known input reads
  | effect noResult returns =>
      intro op member output produces input reads
      rcases Array.mem_push.mp member with old | rfl
      · exact ordered op old output produces input reads
      · rw [noResult] at produces
        cases produces

/-! Any number of actions. -/

/-- Values that are defined have an operation behind their link. -/
theorem linked_of_inverse
    (inverse : ∀ link id, fragment.Produces link id ↔ fragment.DefinedBy id link)
    (distinct : ∀ name id other,
      fragment.Incoming name id → fragment.Incoming name other → id = other) :
    fragment.Linked where
  inverse := inverse
  resolves id link defined := by
    obtain ⟨op, isOp, -⟩ := (inverse link id).mpr defined
    obtain ⟨value, isValue, isLink⟩ := defined
    exact ⟨op, isOp, by simp [definingOp?, isValue, isLink, isOp]⟩
  distinct := distinct

/-- In a fragment without values and operations there is nothing to link. -/
theorem linked_empty (entry : UInt64) : Linked { entry } := by
  apply linked_of_inverse
  · simp [Produces, DefinedBy, op?, value?]
  · simp [Incoming, value?]

/-- Actions are performed one list after the other. -/
theorem build_append (fragment : Fragment) (actions later : List Action) :
    fragment.build (actions ++ later) = (fragment.build actions).build later := by
  rw [build, List.foldl_append]
  rfl

/-- Values and operations point at each other after any actions. -/
theorem Linked.build (linked : fragment.Linked) (actions : List Action) :
    (fragment.build actions).Linked := by
  induction actions generalizing fragment with
  | nil => exact linked
  | cons action rest inductionHypothesis =>
      have step := fragment.perform_steps action
      exact inductionHypothesis
        (linked_of_inverse (step.inverse linked.inverse) (step.distinct linked.distinct))

/-- What an index stands for stays the same after any actions. -/
theorem denoted?_build {thing : Value ⊕ Op} (denotes : fragment.denoted? answer = some thing)
    (actions : List Action) : (fragment.build actions).denoted? answer = some thing := by
  induction actions generalizing fragment with
  | nil => exact denotes
  | cons action rest inductionHypothesis =>
      exact inductionHypothesis ((fragment.perform_steps action).denoted?_eq denotes)

/-- Operations stay behind the values that they read if every action refers to known values. -/
theorem Ordered.build (ordered : fragment.Ordered) (known : fragment.ReadsKnown actions) :
    (fragment.build actions).Ordered := by
  induction actions generalizing fragment with
  | nil => exact ordered
  | cons action rest inductionHypothesis =>
      obtain ⟨here, later⟩ := known
      exact inductionHypothesis ((fragment.perform_steps action).ordered here ordered) later

/-! Definitions that lead to earlier values only. -/

/-- The operation that a value is defined by produces the value. -/
theorem Linked.output_of_definingOp? (linked : fragment.Linked)
    (defined : fragment.definingOp? id = some op) : op.output = some id := by
  simp only [definingOp?, Option.bind_eq_bind, Option.bind_eq_some_iff] at defined
  obtain ⟨value, isValue, link, isLink, isOp⟩ := defined
  obtain ⟨produced, isProduced, output⟩ := (linked.inverse link id).mpr ⟨value, isValue, isLink⟩
  obtain rfl : op = produced := Option.some.inj (isOp.symm.trans isProduced)
  exact output

/-- Where operations read earlier values only, no value depends on itself. -/
theorem Linked.acyclic (linked : fragment.Linked) (ordered : fragment.Ordered) :
    fragment.Acyclic := by
  apply acyclic_of_ordered
  intro id _ op defined input reads
  exact .inl (ordered op (mem_ops_of_definingOp? defined) id (linked.output_of_definingOp? defined)
    input reads)

/-- A run of the plain recursion over the definitions that ends: it lists the origin of a waypoint
itself, then what it lists for the waypoints right behind it. -/
inductive Lists (fragment : Fragment) : Waypoint → List Origin → Prop where
  | intro {waypoint : Waypoint} {lists : List (List Origin)}
      (behind : List.Forall₂ (Lists fragment) (fragment.before waypoint) lists) :
      Lists fragment waypoint ((fragment.originAt? waypoint).toList ++ lists.flatten)

/-- The plain recursion over the definitions ends, with what it is defined to list. -/
theorem lists_plainAt (acyclic : fragment.Acyclic) (value : ValueId) (reading : Option UInt64) :
    fragment.Lists (value, reading) (plainAt acyclic (value, reading)) := by
  induction value using acyclic.wellFounded.induction generalizing reading with
  | _ value inductionHypothesis =>
    rw [plainAt_eq, List.flatMap_def]
    apply Lists.intro
    rw [List.forall₂_map_right_iff, List.forall₂_same]
    intro next leads
    exact inductionHypothesis next.1 (depends_of_mem_before leads) next.2

/-- Whatever actions build a fragment, with indices that may denote nothing, an operation has a
value as its output exactly if it defines the value, links denote operations, and a register has one
incoming value at most. What an action answers denotes the same value or operation ever after. If
every action refers to values that are there, then operations read earlier values than the one that
they produce. In that case no value depends on itself, and the search for the meaning of a result
ends as well as the plain recursion for the origins of a value. -/
theorem built_fragment_linked (entry : UInt64) (actions : List Action) :
    let fragment := build { entry } actions
    fragment.Linked ∧
      (∀ earlier action later, actions = earlier ++ action :: later →
        let (answer, next) := action.perform.run (build { entry } earlier)
        ∃ thing, next.denoted? answer = some thing ∧
          fragment.denoted? answer = some thing) ∧
      (ReadsKnown { entry } actions →
        fragment.Ordered ∧ fragment.Acyclic ∧
          (∀ op, ∃ steps meaning, fragment.Searches steps [op] meaning ∧
            (op ∈ fragment.ops → fragment.meaning? op = meaning)) ∧
          ∀ value reading, ∃ origins, fragment.Lists (value, reading) origins) := by
  intro fragment
  have linked : fragment.Linked := (linked_empty entry).build actions
  refine ⟨linked, ?_, fun known => ?_⟩
  · rintro earlier action later rfl
    obtain ⟨thing, denotes⟩ := ((build { entry } earlier).perform_steps action).exists_denoted
    refine ⟨thing, denotes, ?_⟩
    rw [show fragment = build { entry } (earlier ++ action :: later) from rfl, build_append]
    exact denoted?_build denotes later
  · have ordered : fragment.Ordered := Ordered.build (by simp [Ordered]) known
    have acyclic := linked.acyclic ordered
    refine ⟨ordered, acyclic, fun op => ?_, fun value reading => ?_⟩
    · obtain ⟨steps, search⟩ := exists_searches acyclic op
      exact ⟨steps, _, search, fun member => meaning?_of_searches member search⟩
    · exact ⟨_, lists_plainAt acyclic value reading⟩

section Witness

/-- The actions that lift a pop: a read through `EBP`, and `EBP` moved on behind it. -/
def popActions : List Action :=
  [.input "ebp" 4, .constant 4 4, .load 0x1000 0 4, .emit 0x1003 .intAdd [0, 1] 4,
    .store 0x1006 1 2, .copyTo 0x1007 3 (.register "EBP"), .ret 0x1008 [("ebp", 4)]]

/-- A pop refers to nothing too early. -/
theorem popActions_build_acyclic :
    ReadsKnown { entry := 0x1000 } popActions ∧ (build { entry := 0x1000 } popActions).Ordered ∧
      (build { entry := 0x1000 } popActions).Acyclic := by
  have known : ReadsKnown { entry := 0x1000 } popActions := by decide +kernel
  obtain ⟨ordered, acyclic, -⟩ := (built_fragment_linked 0x1000 popActions).2.2 known
  exact ⟨known, ordered, acyclic⟩

/-- An index that is referred to too early may come to denote the very value that it defines. -/
theorem early_index_closes_cycle :
    ¬ (build { entry := 0x1000 } [.emit 0x1000 .intZext [0] 4]).Acyclic := fun acyclic =>
  acyclic 0 (.single ⟨⟨0x1000, .intZext, [0], some 0⟩, rfl, List.mem_singleton_self 0⟩)

end Witness

end Fragment

end VmRecovery.Ir

import VmRecovery.Ir.Builder
import VmRecovery.Proofs.Ir.Relocation

/-!
# Dead code at the end of a fragment

Obfuscated handlers are padded with arithmetic whose results are thrown away. Padding adds values
and operations at the end of a fragment, and it is dead as long as the fragment mentions none of the
new indices and nothing is loaded, stored, copied or reserved by it. What the padding itself reads
is left open.

An index that the fragment mentions denotes the same as before, or still nothing. The way back from
such a value stays among the mentioned ones, so it leads to the same registers (`origins_pad`).
-/

namespace VmRecovery.Ir

/-- Code at the end of a fragment, with the values that belong to it. -/
structure Padding where
  values : Array Value
  ops : Array Op
  deriving DecidableEq, Repr, Inhabited

/-- One padding after another. -/
def Padding.append (first second : Padding) : Padding where
  values := first.values ++ second.values
  ops := first.ops ++ second.ops

namespace Fragment

/-- The fragment with code added at its end. -/
def pad (fragment : Fragment) (padding : Padding) : Fragment :=
  { fragment with
    values := fragment.values ++ padding.values
    ops := fragment.ops ++ padding.ops }

/-- A fragment mentions a value that an operation reads or defines and one that is bound at the
return, whether there is such a value or not. -/
inductive Mentions (fragment : Fragment) (id : ValueId) : Prop where
  | input {op : Op} (known : op ∈ fragment.ops) (reads : id ∈ op.inputs)
  | output {op : Op} (known : op ∈ fragment.ops) (defines : op.output = some id)
  | binding {register : String} (bound : (register, id) ∈ fragment.returns)

end Fragment

/-- Padding that has no effect on a fragment: it computes and does nothing else, and the fragment
refers to none of its values and operations. -/
structure Padding.Dead (padding : Padding) (fragment : Fragment) : Prop where
  computes : ∀ op ∈ padding.ops,
    op.code ≠ .load ∧ op.code ≠ .store ∧ op.code ≠ .copy ∧ op.code ≠ .ptrSub
  unmentioned : ∀ id, fragment.Mentions id →
    ¬ (fragment.values.size ≤ id ∧ id < fragment.values.size + padding.values.size)
  unlinked : ∀ value ∈ fragment.values, ∀ id, value.definedBy = some id →
    ¬ (fragment.ops.size ≤ id ∧ id < fragment.ops.size + padding.ops.size)

namespace Fragment

variable {fragment : Fragment} {padding : Padding} {id : ValueId} {op : Op}

/-- Padding binds nothing at the return. -/
@[simp] theorem returns_pad : (fragment.pad padding).returns = fragment.returns :=
  rfl

/-- Padding twice is padding with both pieces of code. -/
theorem pad_pad (first second : Padding) :
    (fragment.pad first).pad second = fragment.pad (first.append second) := by
  simp [pad, Padding.append]

/-- A lifter that appends an operation pads the fragment with it and with its result. -/
theorem emitInto_run (address : UInt64) (code : Opcode) (inputs : List ValueId)
    (location : Location) (size : UInt8) :
    (Build.emitInto address code inputs location size).run fragment =
      (fragment.values.size,
        fragment.pad
          { values := #[⟨location, size, some fragment.ops.size⟩]
            ops := #[⟨address, code, inputs, some fragment.values.size⟩] }) := by
  rw [pad, ← Array.push_eq_append, ← Array.push_eq_append]
  rfl

/-! What the mentioned indices denote. -/

/-- An index that is not a new one denotes the same in a longer array, or still nothing. -/
theorem getElem?_append_of_not_new {α : Type} {old added : Array α} {index : Nat}
    (unmentioned : ¬ (old.size ≤ index ∧ index < old.size + added.size)) :
    (old ++ added)[index]? = old[index]? := by
  by_cases inside : index < old.size
  · exact Array.getElem?_append_left inside
  · have outside : old.size + added.size ≤ index := by omega
    rw [Array.getElem?_eq_none (by rwa [Array.size_append]), Array.getElem?_eq_none (by omega)]

/-- A mentioned value is the same with padding. -/
theorem value?_pad (dead : padding.Dead fragment) (mentions : fragment.Mentions id) :
    (fragment.pad padding).value? id = fragment.value? id :=
  getElem?_append_of_not_new (dead.unmentioned id mentions)

/-- A mentioned value is defined by the same operation. -/
theorem definingOp?_pad (dead : padding.Dead fragment) (mentions : fragment.Mentions id) :
    (fragment.pad padding).definingOp? id = fragment.definingOp? id := by
  unfold definingOp?
  rw [value?_pad dead mentions]
  cases isValue : fragment.value? id with
  | none => rfl
  | some value =>
      have known : value ∈ fragment.values := Array.mem_of_getElem? isValue
      cases linked : value.definedBy with
      | none => simp [linked]
      | some link =>
          have same : (fragment.pad padding).op? link = fragment.op? link :=
            getElem?_append_of_not_new (dead.unlinked value known link linked)
          simp [linked, same]

/-- A mentioned value lives in the same register. -/
theorem registerOf?_pad (dead : padding.Dead fragment) (mentions : fragment.Mentions id) :
    (fragment.pad padding).registerOf? id = fragment.registerOf? id := by
  rw [registerOf?, registerOf?, value?_pad dead mentions]

/-- A mentioned value is the same constant, or still none. -/
theorem constantOf?_pad (dead : padding.Dead fragment) (mentions : fragment.Mentions id) :
    (fragment.pad padding).constantOf? id = fragment.constantOf? id := by
  rw [constantOf?, constantOf?, value?_pad dead mentions]

/-- A mentioned value comes from outside the fragment exactly if it did before. -/
theorem isInput_pad (dead : padding.Dead fragment) (mentions : fragment.Mentions id) :
    (fragment.pad padding).isInput id = fragment.isInput id := by
  rw [isInput, isInput, value?_pad dead mentions]

/-- Padding without an opcode adds no operation to those with it. -/
theorem opsOf_pad {code : Opcode} (absent : ∀ op ∈ padding.ops, op.code ≠ code) :
    (fragment.pad padding).opsOf code = fragment.opsOf code := by
  have nothing : padding.ops.toList.filter (fun op => op.code == code) = [] := by
    rw [List.filter_eq_nil_iff]
    intro op member
    simpa using absent op (Array.mem_toList_iff.mp member)
  rw [opsOf, opsOf, pad, Array.toList_append, List.filter_append, nothing, List.append_nil]

/-- Dead code reads no memory. -/
theorem loads_pad (dead : padding.Dead fragment) :
    (fragment.pad padding).loads = fragment.loads :=
  opsOf_pad fun op member => (dead.computes op member).1

/-- Dead code writes no memory. -/
theorem stores_pad (dead : padding.Dead fragment) :
    (fragment.pad padding).stores = fragment.stores :=
  opsOf_pad fun op member => (dead.computes op member).2.1

/-- The operations with an opcode are operations of the fragment. -/
theorem mem_ops_of_mem_opsOf {code : Opcode} (member : op ∈ fragment.opsOf code) :
    op ∈ fragment.ops :=
  Array.mem_toList_iff.mp (List.mem_filter.mp member).1

/-! The way back from a mentioned value. -/

/-- The way back leads from a value to mentioned ones. -/
theorem mentions_of_mem_before {waypoint next : Waypoint}
    (leads : next ∈ fragment.before waypoint) : fragment.Mentions next.1 := by
  obtain ⟨op, ⟨defined, input⟩, -⟩ := mem_before.mp leads
  apply Mentions.input (mem_ops_of_definingOp? defined)
  split at input
  · exact List.mem_of_mem_head? input
  · exact input

/-- From a mentioned value a trace goes back to the same waypoints. -/
theorem before_pad (dead : padding.Dead fragment) {waypoint : Waypoint}
    (mentions : fragment.Mentions waypoint.1) :
    (fragment.pad padding).before waypoint = fragment.before waypoint := by
  obtain ⟨value, reading⟩ := waypoint
  rw [before, before, definingOp?_pad dead mentions]

/-- At a mentioned value a trace finds the same origin. -/
theorem originAt?_pad (dead : padding.Dead fragment) {waypoint : Waypoint}
    (mentions : fragment.Mentions waypoint.1) :
    (fragment.pad padding).originAt? waypoint = fragment.originAt? waypoint := by
  obtain ⟨value, reading⟩ := waypoint
  rw [originAt?, originAt?, definingOp?_pad dead mentions, value?_pad dead mentions]

/-- A fragment has the same waypoints at its mentioned values. -/
theorem contains_pad (dead : padding.Dead fragment) {waypoint : Waypoint}
    (mentions : fragment.Mentions waypoint.1) :
    (fragment.pad padding).Contains waypoint ↔ fragment.Contains waypoint := by
  -- A value belongs to a fragment if its index denotes something.
  have inside : ∀ other : Fragment,
      waypoint.1 < other.values.size ↔ (other.value? waypoint.1).isSome = true := by
    intro other
    rw [value?, isSome_getElem?]
  rw [Contains, Contains, readings, readings, loads_pad dead, inside, inside,
    value?_pad dead mentions]

/-- From mentioned values the search goes the same way. -/
theorem search_pad (dead : padding.Dead fragment) {visited pending : List Waypoint}
    {found : List Origin} (mentions : ∀ waypoint ∈ pending, fragment.Mentions waypoint.1) :
    (fragment.pad padding).search visited pending found =
      fragment.search visited pending found := by
  induction visited, pending, found using Fragment.search.induct fragment with
  | case1 visited found =>
      rw [search, search]
  | case2 visited found waypoint rest enters inductionHypothesis =>
      have here := mentions waypoint List.mem_cons_self
      have enters' : (fragment.pad padding).Contains waypoint ∧ waypoint ∉ visited := by
        rwa [contains_pad dead here]
      rw [search_of_entered enters, search_of_entered enters', before_pad dead here,
        originAt?_pad dead here]
      apply inductionHypothesis
      intro other member
      rcases List.mem_append.mp member with leads | later
      · exact mentions_of_mem_before leads
      · exact mentions other (List.mem_cons_of_mem _ later)
  | case3 visited found waypoint rest refused inductionHypothesis =>
      have here := mentions waypoint List.mem_cons_self
      have refused' : ¬ ((fragment.pad padding).Contains waypoint ∧ waypoint ∉ visited) := by
        rwa [contains_pad dead here]
      rw [search_of_refused refused, search_of_refused refused']
      exact inductionHypothesis fun other member => mentions other (List.mem_cons_of_mem _ member)

/-- Dead code does not change where a mentioned value comes from. -/
theorem origins_pad (dead : padding.Dead fragment) (mentions : fragment.Mentions id) :
    (fragment.pad padding).origins id = fragment.origins id := by
  apply search_pad dead
  intro waypoint member
  obtain rfl := List.mem_singleton.mp member
  exact mentions

end Fragment

end VmRecovery.Ir

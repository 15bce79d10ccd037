import VmRecovery.Proofs.Ir.Provenance

/-!
# Code at other addresses

One handler may lie at several places, so what a fragment is recognised as must not depend on
where its operations lie. Addresses enter the dataflow at one point: an origin records the
innermost load on the way, and the search compares these addresses to tell what it has visited
and found. As long as operations that lay apart stay apart, the search goes the same way, and
the addresses of the loads are all that changes about the origins (`origins_relocate`).
-/

namespace VmRecovery.Ir

variable {move : UInt64 → UInt64}

def Op.relocate (move : UInt64 → UInt64) (op : Op) : Op :=
  { op with address := move op.address }

/-- A copied operation has the same opcode. -/
@[simp] theorem Op.code_relocate (op : Op) : (op.relocate move).code = op.code :=
  rfl

/-- A copied operation has the same inputs. -/
@[simp] theorem Op.inputs_relocate (op : Op) : (op.relocate move).inputs = op.inputs :=
  rfl

/-- A copied operation lies at the moved address. -/
@[simp] theorem Op.address_relocate (op : Op) : (op.relocate move).address = move op.address :=
  rfl

def Origin.relocate (move : UInt64 → UInt64) (origin : Origin) : Origin :=
  { origin with address := origin.address.map move }

/-- A copied origin has the same name. -/
@[simp] theorem Origin.name_relocate (origin : Origin) :
    (origin.relocate move).name = origin.name :=
  rfl

/-- A copied origin is read through memory exactly if the original one is. -/
@[simp] theorem Origin.viaMemory_relocate (origin : Origin) :
    (origin.relocate move).viaMemory = origin.viaMemory :=
  rfl

/-- A copied origin is read at the moved address. -/
@[simp] theorem Origin.address_relocate (origin : Origin) :
    (origin.relocate move).address = origin.address.map move :=
  rfl

/-- A copied origin matches the same registers. -/
@[simp] theorem Origin.matches_relocate (origin : Origin) (name : String) (viaMemory : Bool) :
    (origin.relocate move).matches name viaMemory = origin.matches name viaMemory :=
  rfl

def Waypoint.relocate (move : UInt64 → UInt64) (waypoint : Waypoint) : Waypoint :=
  (waypoint.1, waypoint.2.map move)

namespace Fragment

/-- The fragment with its operations at other addresses. -/
def relocate (move : UInt64 → UInt64) (fragment : Fragment) : Fragment :=
  { fragment with ops := fragment.ops.map (Op.relocate move) }

/-- The addresses of the operations of a fragment. -/
def occupied (fragment : Fragment) : Set UInt64 :=
  { address | ∃ op ∈ fragment.ops, op.address = address }

variable {fragment : Fragment}

/-- A move that keeps every occupied address keeps the fragment. -/
theorem relocate_eq_self (fixed : ∀ address ∈ fragment.occupied, move address = address) :
    fragment.relocate move = fragment := by
  have same : fragment.ops.map (Op.relocate move) = fragment.ops := by
    rw [← Array.map_id fragment.ops, Array.map_map]
    apply Array.map_congr_left
    intro op member
    rw [Function.comp, id, Op.relocate, fixed op.address ⟨op, member, rfl⟩]
  rw [relocate, same]

/-- A copy binds the same values at its return. -/
@[simp] theorem returns_relocate : (fragment.relocate move).returns = fragment.returns :=
  rfl

/-- A copy has the same values. -/
@[simp] theorem value?_relocate : (fragment.relocate move).value? = fragment.value? :=
  rfl

/-- The same values come from outside the copy. -/
@[simp] theorem isInput_relocate : (fragment.relocate move).isInput = fragment.isInput :=
  rfl

/-- A value of the copy is defined by the copy of its definition. -/
@[simp] theorem definingOp?_relocate (id : ValueId) :
    (fragment.relocate move).definingOp? id = (fragment.definingOp? id).map (Op.relocate move) := by
  unfold definingOp?
  rw [value?_relocate]
  rcases fragment.value? id with _ | ⟨_, _, _ | op⟩
  · rfl
  · rfl
  · exact Array.getElem?_map

/-- The operations with an opcode are the copies of those in the original, in their order. -/
@[simp] theorem opsOf_relocate (code : Opcode) :
    (fragment.relocate move).opsOf code = (fragment.opsOf code).map (Op.relocate move) := by
  rw [opsOf, opsOf, relocate, Array.toList_map, List.filter_map]
  rfl

/-- A copy reads memory by the copies of the reads. -/
@[simp] theorem loads_relocate :
    (fragment.relocate move).loads = fragment.loads.map (Op.relocate move) :=
  opsOf_relocate .load

/-- A copy writes memory by the copies of the writes. -/
@[simp] theorem stores_relocate :
    (fragment.relocate move).stores = fragment.stores.map (Op.relocate move) :=
  opsOf_relocate .store

/-- A value is used by the copies of the operations that use it. -/
@[simp] theorem usesOf_relocate (id : ValueId) :
    (fragment.relocate move).usesOf id = (fragment.usesOf id).map (Op.relocate move) := by
  rw [usesOf, usesOf, relocate, Array.toList_map, List.filter_map]
  rfl

/-- The operations of a copy have as many inputs. -/
@[simp] theorem maxArity_relocate : (fragment.relocate move).maxArity = fragment.maxArity :=
  Array.foldl_map

/-! The search at other addresses. -/

/-- The readings that a trace of the copy can carry are the moved ones. -/
@[simp] theorem readings_relocate :
    (fragment.relocate move).readings = fragment.readings.map (Option.map move) := by
  simp [readings, Function.comp_def, Op.relocate]

/-- A trace of the copy goes on to the copies of the waypoints. -/
theorem before_relocate (waypoint : Waypoint) :
    (fragment.relocate move).before (waypoint.relocate move) =
      (fragment.before waypoint).map (Waypoint.relocate move) := by
  obtain ⟨value, reading⟩ := waypoint
  simp only [before, Waypoint.relocate, definingOp?_relocate]
  cases fragment.definingOp? value with
  | none => rfl
  | some op =>
      by_cases isLoad : op.code = .load
      · simp [isLoad, Op.address_relocate, Function.comp_def, Waypoint.relocate]
      · simp [isLoad, Function.comp_def, Waypoint.relocate]

/-- A trace of the copy finds the copied origin at a copied waypoint. -/
theorem originAt?_relocate (waypoint : Waypoint) :
    (fragment.relocate move).originAt? (waypoint.relocate move) =
      (fragment.originAt? waypoint).map (Origin.relocate move) := by
  obtain ⟨value, reading⟩ := waypoint
  simp only [originAt?, Waypoint.relocate, definingOp?_relocate, value?_relocate]
  cases fragment.definingOp? value with
  | some op => rfl
  | none =>
      rcases fragment.value? value with _ | ⟨_ | _ | _ | _, _, _⟩
      · rfl
      · simp [Origin.relocate]
      · simp [Origin.relocate]
      · rfl
      · rfl

/-! What is compared while the search goes on. -/

/-- The addresses of loads are addresses of operations. -/
theorem occupied_of_reading {address : UInt64} (known : some address ∈ fragment.readings) :
    address ∈ fragment.occupied := by
  rcases List.mem_cons.mp known with ⟨⟨⟩⟩ | isLoad
  obtain ⟨load, member, same⟩ := List.mem_map.mp isLoad
  exact ⟨load, Array.mem_toList_iff.mp (List.mem_filter.mp member).1, Option.some.inj same⟩

/-- Loads that lay apart stay apart. -/
theorem injOn_readings (apart : Set.InjOn move fragment.occupied) :
    Set.InjOn (Option.map move) { reading | reading ∈ fragment.readings } := by
  rintro (_ | first) known (_ | second) known' same
  · rfl
  · cases same
  · cases same
  · have moved := Option.some.inj same
    rw [apart (occupied_of_reading known) (occupied_of_reading known') moved]

/-- Waypoints stay apart if the addresses of the operations do. -/
theorem injOn_waypoints (apart : Set.InjOn move fragment.occupied) :
    Set.InjOn (Waypoint.relocate move) { waypoint | waypoint.2 ∈ fragment.readings } := by
  rintro ⟨value, reading⟩ known ⟨value', reading'⟩ known' same
  obtain ⟨sameValue, sameReading⟩ := Prod.mk.inj same
  exact Prod.ext sameValue (injOn_readings apart known known' sameReading)

/-- Origins stay apart if the addresses of the operations do. -/
theorem injOn_origins (apart : Set.InjOn move fragment.occupied) :
    Set.InjOn (Origin.relocate move) { origin | origin.address ∈ fragment.readings } := by
  rintro ⟨name, viaMemory, address⟩ known ⟨name', viaMemory', address'⟩ known' same
  obtain ⟨rfl, rfl, sameAddress⟩ := Origin.mk.inj same
  obtain rfl : address = address' := injOn_readings apart known known' sameAddress
  rfl

/-- A waypoint belongs to the fragment at either place. -/
theorem contains_relocate {waypoint : Waypoint} (known : waypoint.2 ∈ fragment.readings) :
    (fragment.relocate move).Contains (waypoint.relocate move) ↔ fragment.Contains waypoint := by
  have known' : (waypoint.relocate move).2 ∈ (fragment.relocate move).readings := by
    rw [readings_relocate]
    exact List.mem_map_of_mem known
  exact and_congr Iff.rfl (iff_of_true known' known)

/-- A copied origin is new exactly if the original one is, so the same ones are kept. -/
theorem remember_relocate (apart : Set.InjOn move fragment.occupied) {found : List Origin}
    {origin? : Option Origin} (known : ∀ origin ∈ found, origin.address ∈ fragment.readings)
    (known' : ∀ origin ∈ origin?, origin.address ∈ fragment.readings) :
    remember (found.map (Origin.relocate move)) (origin?.map (Origin.relocate move)) =
      (remember found origin?).map (Origin.relocate move) := by
  cases origin? with
  | none => rfl
  | some origin =>
      have old : origin.relocate move ∈ found.map (Origin.relocate move) ↔ origin ∈ found := by
        rw [List.mem_map]
        exact (injOn_origins apart).mem_image_iff known (known' origin rfl)
      simp only [Option.map_some, remember, old]
      split
      · rfl
      · rw [List.map_append, List.map_singleton]

/-- An origin records the load of its waypoint. -/
theorem address_of_originAt? {waypoint : Waypoint} {origin : Origin}
    (isOrigin : fragment.originAt? waypoint = some origin) : origin.address = waypoint.2 := by
  obtain ⟨value, reading⟩ := waypoint
  obtain ⟨-, _, -, -, address, -⟩ := originAt?_eq_some_iff.mp isOrigin
  exact address

/-- The search goes the same way at other addresses. -/
theorem search_relocate (apart : Set.InjOn move fragment.occupied)
    {visited pending : List Waypoint} {found : List Origin}
    (seen : ∀ waypoint ∈ visited, waypoint.2 ∈ fragment.readings)
    (ahead : ∀ waypoint ∈ pending, waypoint.2 ∈ fragment.readings)
    (known : ∀ origin ∈ found, origin.address ∈ fragment.readings) :
    (fragment.relocate move).search (visited.map (Waypoint.relocate move))
        (pending.map (Waypoint.relocate move)) (found.map (Origin.relocate move)) =
      (fragment.search visited pending found).map (Origin.relocate move) := by
  -- All that the search compares are loads of the fragment, and these stay apart.
  induction visited, pending, found using Fragment.search.induct fragment with
  | case1 visited found =>
      rw [List.map_nil, Fragment.search, Fragment.search]
  | case2 visited found waypoint rest enters inductionHypothesis =>
      have here := ahead waypoint List.mem_cons_self
      have new := not_congr ((injOn_waypoints apart).mem_image_iff seen here)
      have enters' : (fragment.relocate move).Contains (waypoint.relocate move) ∧
          waypoint.relocate move ∉ visited.map (Waypoint.relocate move) := by
        rw [contains_relocate here, List.mem_map]
        exact ⟨enters.1, new.mpr enters.2⟩
      have isLoad : ∀ origin ∈ fragment.originAt? waypoint, origin.address ∈ fragment.readings :=
        fun origin isOrigin => address_of_originAt? isOrigin ▸ here
      rw [List.map_cons, search_of_entered enters, search_of_entered enters', before_relocate,
        originAt?_relocate, remember_relocate apart known isLoad, ← List.map_cons,
        ← List.map_append]
      apply inductionHypothesis
      · rintro other (_ | ⟨_, earlier⟩)
        · exact here
        · exact seen other earlier
      · intro other member
        rcases List.mem_append.mp member with leads | later
        · exact reading_mem leads here
        · exact ahead other (List.mem_cons_of_mem _ later)
      · intro origin member
        rcases mem_remember.mp member with old | isOrigin
        · exact known origin old
        · exact isLoad origin isOrigin
  | case3 visited found waypoint rest refused inductionHypothesis =>
      have here := ahead waypoint List.mem_cons_self
      have old := (injOn_waypoints apart).mem_image_iff seen here
      have refused' : ¬ ((fragment.relocate move).Contains (waypoint.relocate move) ∧
          waypoint.relocate move ∉ visited.map (Waypoint.relocate move)) := by
        rw [contains_relocate here, List.mem_map]
        exact fun enters => refused ⟨enters.1, fun member => enters.2 (old.mpr member)⟩
      rw [List.map_cons, search_of_refused refused, search_of_refused refused']
      exact inductionHypothesis seen
        (fun other member => ahead other (List.mem_cons_of_mem _ member)) known

/-- At other addresses a value derives from the same registers, in the same order and by the
relocated loads. -/
theorem origins_relocate (apart : Set.InjOn move fragment.occupied) (value : ValueId) :
    (fragment.relocate move).origins value =
      (fragment.origins value).map (Origin.relocate move) := by
  have start : ∀ waypoint ∈ [((value, none) : Waypoint)], waypoint.2 ∈ fragment.readings := by
    intro waypoint member
    obtain rfl := List.mem_singleton.mp member
    exact List.mem_cons_self
  exact search_relocate apart (List.forall_mem_nil _) start (List.forall_mem_nil _)

end Fragment

end VmRecovery.Ir

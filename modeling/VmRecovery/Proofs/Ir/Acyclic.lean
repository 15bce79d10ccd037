import Mathlib
import VmRecovery.Proofs.Ir.Provenance
import VmRecovery.Proofs.Lists

/-!
# Provenance by plain recursion

Where no value depends on itself, the origins of a value can also be collected by recursion over
the definitions, once for every path. The search enters no waypoint twice and keeps no origin
twice; it still comes to the same list in the same order, less the repetitions
(`origins_eq_eraseDups`).

What carries the proof is that a waypoint is skipped only when all that the recursion would list
for it stands further left already (`Settled`). A visited waypoint is either done, or on the way to
the waypoint at hand; the latter would be a value that depends on itself.
-/

namespace VmRecovery.Ir

namespace Fragment

variable {fragment : Fragment} {value input : ValueId} {op : Op} {reading : Option UInt64}
  {waypoint next : Waypoint} {visited pending rest : List Waypoint}
  {listed listed' found : List Origin}

/-! What a value depends on. -/

/-- A value depends on the inputs of the operation that defines it. -/
def Depends (fragment : Fragment) (value input : ValueId) : Prop :=
  ∃ op, fragment.definingOp? value = some op ∧ input ∈ op.inputs

/-- No value depends on itself. Inputs may be indices that denote nothing. -/
def Acyclic (fragment : Fragment) : Prop :=
  ∀ value, ¬ Relation.TransGen fragment.Depends value value

/-- A value that depends on others belongs to the fragment. -/
theorem Depends.lt_size (depends : fragment.Depends value input) :
    value < fragment.values.size := by
  obtain ⟨op, defined, -⟩ := depends
  exact lt_size_of_defined defined

/-- A value depends on those that lie behind it on a trace. -/
theorem depends_of_mem_before (leads : next ∈ fragment.before waypoint) :
    fragment.Depends waypoint.1 next.1 := by
  obtain ⟨op, ⟨defined, follows⟩, -⟩ := mem_before.mp leads
  refine ⟨op, defined, ?_⟩
  by_cases isLoad : op.code = .load
  · rw [if_pos isLoad] at follows
    exact List.mem_of_head? follows
  · rwa [if_neg isLoad] at follows

/-- Dependence among finitely many values, none of which depends on itself, is well founded. An
index without a value depends on nothing. -/
theorem Acyclic.wellFounded (acyclic : fragment.Acyclic) :
    WellFounded fun input value => fragment.Depends value input := by
  let Behind : Fin fragment.values.size → Fin fragment.values.size → Prop :=
    fun input value => Relation.TransGen fragment.Depends value input
  have : IsTrans _ Behind := ⟨fun _ _ _ nearer further => further.trans nearer⟩
  have : Std.Irrefl Behind := ⟨fun value => acyclic value⟩
  have grounded : WellFounded Behind := Finite.wellFounded_of_trans_of_irrefl Behind
  have outside : ∀ value, fragment.values.size ≤ value →
      Acc (fun input value => fragment.Depends value input) value := by
    intro value large
    constructor
    intro input depends
    exact absurd depends.lt_size (Nat.not_lt.mpr large)
  have inside : ∀ value : Fin fragment.values.size,
      Acc (fun input value => fragment.Depends value input) value.val := by
    intro value
    induction value using grounded.induction with
    | _ value inductionHypothesis =>
      constructor
      intro input depends
      by_cases known : input < fragment.values.size
      · exact inductionHypothesis ⟨input, known⟩ (.single depends)
      · exact outside input (Nat.not_lt.mp known)
  constructor
  intro value
  by_cases known : value < fragment.values.size
  · exact inside ⟨value, known⟩
  · exact outside value (Nat.not_lt.mp known)

/-- A fragment is acyclic if its operations read earlier values only, apart from values that
nothing defines. -/
theorem acyclic_of_ordered
    (ordered : ∀ value < fragment.values.size, ∀ op ∈ fragment.definingOp? value,
      ∀ input ∈ op.inputs, input < value ∨ fragment.definingOp? input = none) :
    fragment.Acyclic := by
  have later : ∀ {value input}, Relation.TransGen fragment.Depends value input →
      input < value ∨ fragment.definingOp? input = none := by
    intro value input behind
    induction behind with
    | single depends =>
        obtain ⟨op, defined, member⟩ := depends
        exact ordered value (Depends.lt_size ⟨op, defined, member⟩) op defined _ member
    | tail _ depends inductionHypothesis =>
        have further := depends
        obtain ⟨op, defined, member⟩ := further
        have earlier := inductionHypothesis.resolve_right (by simp [defined])
        rcases ordered _ depends.lt_size op defined _ member with before | undefined
        · exact .inl (before.trans earlier)
        · exact .inr undefined
  intro value cycle
  obtain ⟨_, ⟨op, defined, -⟩, -⟩ := Relation.TransGen.head'_iff.mp cycle
  rcases later cycle with before | undefined
  · exact Nat.lt_irrefl value before
  · simp [undefined] at defined

/-! The plain recursion. -/

/-- The origins of a value, path after path from left to right, with the address of the innermost
load above it. A value without a definition is an origin itself if it lives in a register, or in
a slot of the native stack. Behind a load only its pointer counts. -/
def plainOrigins (fragment : Fragment) (acyclic : fragment.Acyclic) (value : ValueId)
    (reading : Option UInt64) : List Origin :=
  match _defined : fragment.definingOp? value with
  | none =>
      match (fragment.value? value).map Value.location with
      | some (.register name) => [⟨name, reading.isSome, reading⟩]
      | some (.stack _) => [⟨"ESP", true, reading⟩]
      | _ => []
  | some op =>
      if op.code = .load then
        match _first : op.inputs.head? with
        | none => []
        | some pointer => fragment.plainOrigins acyclic pointer (some op.address)
      else
        op.inputs.attach.flatMap fun input => fragment.plainOrigins acyclic input.1 reading
termination_by acyclic.wellFounded.wrap value
decreasing_by
  · exact ⟨op, _defined, List.mem_of_head? _first⟩
  · exact ⟨op, _defined, input.2⟩

/-- What the recursion lists for a waypoint. -/
def plainAt (acyclic : fragment.Acyclic) (waypoint : Waypoint) : List Origin :=
  fragment.plainOrigins acyclic waypoint.1 waypoint.2

/-- A value without a definition is its own origin, if it has one at all. -/
theorem plainOrigins_of_undefined (acyclic : fragment.Acyclic)
    (undefined : fragment.definingOp? value = none) :
    fragment.plainOrigins acyclic value reading =
      (fragment.originAt? (value, reading)).toList := by
  rw [plainOrigins]
  split
  · rw [originAt?, undefined]
    cases (fragment.value? value).map Value.location with
    | none => rfl
    | some location => cases location <;> rfl
  · rename_i op defined
    simp [undefined] at defined

/-- A loaded value has the origins of its pointer, read at the load. -/
theorem plainOrigins_of_load (acyclic : fragment.Acyclic)
    (defined : fragment.definingOp? value = some op) (isLoad : op.code = .load) :
    fragment.plainOrigins acyclic value reading =
      op.inputs.head?.toList.flatMap fun pointer =>
        fragment.plainOrigins acyclic pointer (some op.address) := by
  rw [plainOrigins]
  split
  · rename_i undefined
    simp [defined] at undefined
  · rename_i other isOp
    obtain rfl : op = other := Option.some.inj (defined.symm.trans isOp)
    rw [if_pos isLoad]
    split
    · rename_i missing
      simp [missing]
    · rename_i pointer first
      simp [first]

/-- A computed value has the origins of its inputs, from the first one on. -/
theorem plainOrigins_of_operation (acyclic : fragment.Acyclic)
    (defined : fragment.definingOp? value = some op) (isNoLoad : op.code ≠ .load) :
    fragment.plainOrigins acyclic value reading =
      op.inputs.flatMap fun input => fragment.plainOrigins acyclic input reading := by
  rw [plainOrigins]
  split
  · rename_i undefined
    simp [defined] at undefined
  · rename_i other isOp
    obtain rfl : op = other := Option.some.inj (defined.symm.trans isOp)
    rw [if_neg isNoLoad]
    simp [List.flatMap]

/-- For a waypoint the recursion lists its own origin, then what it lists for the waypoints right
behind it. -/
theorem plainAt_eq (acyclic : fragment.Acyclic) (waypoint : Waypoint) :
    plainAt acyclic waypoint =
      (fragment.originAt? waypoint).toList ++
        (fragment.before waypoint).flatMap (plainAt acyclic) := by
  obtain ⟨value, reading⟩ := waypoint
  cases defined : fragment.definingOp? value with
  | none =>
      rw [plainAt, plainOrigins_of_undefined acyclic defined]
      simp [before, defined]
  | some op =>
      have noOrigin : fragment.originAt? (value, reading) = none := by
        simp [originAt?, defined]
      by_cases isLoad : op.code = .load
      · rw [plainAt, plainOrigins_of_load acyclic defined isLoad, noOrigin]
        simp [before, defined, isLoad, List.flatMap_map, plainAt]
      · rw [plainAt, plainOrigins_of_operation acyclic defined isLoad, noOrigin]
        simp [before, defined, isLoad, List.flatMap_map, plainAt]

/-! Repetitions. -/

/-- Noting an origin unless it is there is listing it and dropping the repetition. -/
theorem remember_eraseDups (listed : List Origin) (origin? : Option Origin) :
    remember listed.eraseDups origin? = (listed ++ origin?.toList).eraseDups := by
  cases origin? with
  | none => simp [remember]
  | some origin =>
      rw [remember, Option.toList_some]
      by_cases known : origin ∈ listed
      · simp [known, eraseDups_concat_of_mem]
      · simp [known, eraseDups_concat_of_not_mem]

/-! The search on an acyclic fragment. -/

/-- Nothing right behind a waypoint leads back to it. -/
theorem Acyclic.not_reaches (acyclic : fragment.Acyclic)
    (leads : next ∈ fragment.before waypoint) : ¬ fragment.Reaches next waypoint := by
  intro reaches
  have back : Relation.ReflTransGen fragment.Depends next.1 waypoint.1 :=
    Relation.ReflTransGen.lift Prod.fst (fun _ _ leads => depends_of_mem_before leads) _ _ reaches
  exact acyclic waypoint.1 (.head' (depends_of_mem_before leads) back)

/-- Whatever a pending waypoint shares with the visited ones stands further left: it is listed
already, or it will be by a waypoint that is taken earlier. -/
def Settled (acyclic : fragment.Acyclic) (visited : List Waypoint) :
    List Origin → List Waypoint → Prop
  | _, [] => True
  | listed, waypoint :: rest =>
      (∀ seen ∈ visited, fragment.Reaches waypoint seen → plainAt acyclic seen ⊆ listed) ∧
        Settled acyclic visited (listed ++ plainAt acyclic waypoint) rest

section Settled

variable {acyclic : fragment.Acyclic}

/-- What is settled stays so when more is listed already. -/
theorem Settled.mono (settled : Settled acyclic visited listed pending)
    (more : listed ⊆ listed') : Settled acyclic visited listed' pending := by
  induction pending generalizing listed listed' with
  | nil => trivial
  | cons waypoint rest inductionHypothesis =>
      obtain ⟨here, later⟩ := settled
      constructor
      · intro seen member reaches
        exact List.Subset.trans (here seen member reaches) more
      · apply inductionHypothesis later
        exact List.append_subset.mpr
          ⟨List.Subset.trans more (List.subset_append_left _ _), List.subset_append_right _ _⟩

/-- Two lists of waypoints are settled together if the second is once all of the first is listed. -/
theorem settled_append :
    Settled acyclic visited listed (pending ++ rest) ↔
      Settled acyclic visited listed pending ∧
        Settled acyclic visited (listed ++ pending.flatMap (plainAt acyclic)) rest := by
  induction pending generalizing listed with
  | nil => simp [Settled]
  | cons waypoint pending inductionHypothesis =>
      simp [Settled, inductionHypothesis, and_assoc]

/-- Waypoints are settled if all they share with the visited ones is listed already. -/
theorem settled_of_forall
    (known : ∀ waypoint ∈ pending, ∀ seen ∈ visited, fragment.Reaches waypoint seen →
      plainAt acyclic seen ⊆ listed) : Settled acyclic visited listed pending := by
  induction pending generalizing listed with
  | nil => trivial
  | cons waypoint rest inductionHypothesis =>
      constructor
      · exact known waypoint List.mem_cons_self
      · apply inductionHypothesis
        intro other member seen visited reaches
        exact List.Subset.trans
          (known other (List.mem_cons_of_mem _ member) seen visited reaches)
          (List.subset_append_left _ _)

/-- A waypoint may count as visited for those that are taken when it is done. -/
theorem Settled.visit (settled : Settled acyclic visited listed pending)
    (done : plainAt acyclic waypoint ⊆ listed) :
    Settled acyclic (waypoint :: visited) listed pending := by
  induction pending generalizing listed with
  | nil => trivial
  | cons other rest inductionHypothesis =>
      obtain ⟨here, later⟩ := settled
      constructor
      · intro seen member reaches
        rcases List.mem_cons.mp member with rfl | earlier
        · exact done
        · exact here seen earlier reaches
      · exact inductionHypothesis later (List.Subset.trans done (List.subset_append_left _ _))

/-- A waypoint that is entered is settled by those right behind it: none of them leads back to
it, and what they share with waypoints visited before, the waypoint itself shares with these. -/
theorem Settled.enter (settled : Settled acyclic visited listed (waypoint :: rest)) :
    Settled acyclic (waypoint :: visited) (listed ++ (fragment.originAt? waypoint).toList)
      (fragment.before waypoint ++ rest) := by
  obtain ⟨here, later⟩ := settled
  rw [settled_append]
  constructor
  · apply settled_of_forall
    intro next leads seen member reaches
    rcases List.mem_cons.mp member with rfl | earlier
    · exact absurd reaches (acyclic.not_reaches leads)
    · exact List.Subset.trans (here seen earlier (.head leads reaches))
        (List.subset_append_left _ _)
  · rw [List.append_assoc, ← plainAt_eq]
    exact later.visit (List.subset_append_right _ _)

/-- A waypoint that is skipped has nothing new: it has been visited, or it denotes nothing. -/
theorem Settled.skipped (settled : Settled acyclic visited listed (waypoint :: rest))
    (refused : ¬ (fragment.Contains waypoint ∧ waypoint ∉ visited))
    (known : waypoint.2 ∈ fragment.readings) : plainAt acyclic waypoint ⊆ listed := by
  by_cases inside : waypoint.1 < fragment.values.size
  · have member : waypoint ∈ visited := by
      by_contra new
      exact refused ⟨⟨inside, known⟩, new⟩
    exact settled.1 waypoint member .refl
  · obtain ⟨nothing, none⟩ :=
      @blank_of_size_le fragment waypoint.1 waypoint.2 (Nat.not_lt.mp inside)
    rw [plainAt_eq, none, nothing]
    simp

/-- The search adds what the recursion lists for the pending waypoints, less the repetitions. -/
theorem search_eq (settled : Settled acyclic visited listed pending)
    (known : ∀ waypoint ∈ pending, waypoint.2 ∈ fragment.readings)
    (distinct : found = listed.eraseDups) :
    fragment.search visited pending found =
      (listed ++ pending.flatMap (plainAt acyclic)).eraseDups := by
  induction visited, pending, found using Fragment.search.induct fragment
    generalizing listed with
  | case1 visited found =>
      rw [search, distinct]
      simp
  | case2 visited found waypoint rest enters inductionHypothesis =>
      have behind : ∀ next ∈ fragment.before waypoint ++ rest, next.2 ∈ fragment.readings := by
        intro next member
        rcases List.mem_append.mp member with leads | remains
        · exact reading_mem leads enters.1.2
        · exact known next (List.mem_cons_of_mem _ remains)
      rw [search_of_entered enters, inductionHypothesis settled.enter behind (by
        rw [distinct, remember_eraseDups])]
      rw [List.flatMap_cons, plainAt_eq acyclic waypoint]
      simp [List.flatMap_append]
  | case3 visited found waypoint rest refused inductionHypothesis =>
      have nothingNew := settled.skipped refused (known waypoint List.mem_cons_self)
      have later : Settled acyclic visited listed rest :=
        settled.2.mono (List.append_subset.mpr ⟨List.Subset.refl _, nothingNew⟩)
      rw [search_of_refused refused,
        inductionHypothesis later (fun next member => known next (List.mem_cons_of_mem _ member))
          distinct]
      rw [List.flatMap_cons, ← List.append_assoc, eraseDups_append_of_subset nothingNew]

end Settled

/-- On an acyclic fragment the origins of a value are those that the plain recursion lists, in
the same order, less every later repetition. -/
theorem origins_eq_eraseDups (fragment : Fragment) (acyclic : fragment.Acyclic)
    (value : ValueId) :
    fragment.origins value = (fragment.plainOrigins acyclic value none).eraseDups := by
  have settled : Settled acyclic [] [] [(value, none)] := settled_of_forall (by simp)
  have known : ∀ waypoint ∈ [((value, none) : Waypoint)], waypoint.2 ∈ fragment.readings := by
    simp [readings]
  rw [origins, search_eq settled known List.eraseDups_nil.symm]
  simp [plainAt]

section Witness

/-- A slot read through the stack pointer, whose index is read through `ESI`. The sum takes the
index in twice, and an input that denotes nothing. -/
def sharedIndex : Fragment where
  entry := 0x1000
  values :=
    #[⟨.register "ESP", 4, none⟩, ⟨.register "ESI", 4, none⟩, ⟨.temporary, 4, some 0⟩,
      ⟨.temporary, 4, some 1⟩, ⟨.temporary, 4, some 2⟩, ⟨.temporary, 4, some 3⟩]
  ops :=
    #[⟨0x1000, .load, [1], some 2⟩, ⟨0x1003, .ptrAdd, [0, 2, 2], some 3⟩,
      ⟨0x1006, .load, [3], some 4⟩, ⟨0x1009, .intAdd, [4, 2, 9, 4], some 5⟩]

/-- No value of the shared index depends on itself. -/
theorem sharedIndex_acyclic : sharedIndex.Acyclic :=
  acyclic_of_ordered (by decide)

/-- The recursion lists seven origins, the search two of them. -/
theorem origins_sharedIndex :
    sharedIndex.plainOrigins sharedIndex_acyclic 5 none =
        [⟨"ESP", true, some 0x1006⟩, ⟨"ESI", true, some 0x1000⟩, ⟨"ESI", true, some 0x1000⟩,
          ⟨"ESI", true, some 0x1000⟩, ⟨"ESP", true, some 0x1006⟩, ⟨"ESI", true, some 0x1000⟩,
          ⟨"ESI", true, some 0x1000⟩] ∧
      sharedIndex.origins 5 =
        (sharedIndex.plainOrigins sharedIndex_acyclic 5 none).eraseDups ∧
      (sharedIndex.plainOrigins sharedIndex_acyclic 5 none).eraseDups =
        [⟨"ESP", true, some 0x1006⟩, ⟨"ESI", true, some 0x1000⟩] := by
  have listed :
      sharedIndex.plainOrigins sharedIndex_acyclic 5 none =
        [⟨"ESP", true, some 0x1006⟩, ⟨"ESI", true, some 0x1000⟩, ⟨"ESI", true, some 0x1000⟩,
          ⟨"ESI", true, some 0x1000⟩, ⟨"ESP", true, some 0x1006⟩, ⟨"ESI", true, some 0x1000⟩,
          ⟨"ESI", true, some 0x1000⟩] := by
    change plainAt sharedIndex_acyclic (5, none) = _
    simp [plainAt_eq, before, originAt?, definingOp?, value?, op?, sharedIndex]
  constructor
  · exact listed
  constructor
  · exact origins_eq_eraseDups sharedIndex sharedIndex_acyclic 5
  · rw [listed]
    decide

end Witness

end Fragment

end VmRecovery.Ir

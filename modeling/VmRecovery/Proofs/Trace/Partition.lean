import VmRecovery.Proofs.Trace.Coverage

/-!
# The groups partition the executed addresses

Every executed address lies in exactly one group, and two addresses that were executed one after
the other are neighbours in a group exactly when they are joined. That every address is reached
from a leader holds because every trace is divided into groups.
-/

namespace VmRecovery.Trace

open Native

theorem mem_of_mem_neighbours {path : List UInt64} {address next : UInt64}
    (shown : (address, next) ∈ neighbours path) : address ∈ path ∧ next ∈ path :=
  ⟨(List.of_mem_zip shown).1, List.mem_of_mem_tail (List.of_mem_zip shown).2⟩

/-- A member of a path is its last one or has a neighbour behind it. -/
theorem getLast?_or_neighbour {path : List UInt64} {address : UInt64} (member : address ∈ path) :
    path.getLast? = some address ∨ ∃ next, (address, next) ∈ neighbours path := by
  induction path with
  | nil => cases member
  | cons first rest inductionHypothesis =>
      cases rest with
      | nil => exact .inl (by simpa [eq_comm] using member)
      | cons second rest =>
          rw [List.getLast?_cons_cons, neighbours_cons_cons]
          rcases List.mem_cons.mp member with rfl | later
          · exact .inr ⟨second, List.mem_cons_self⟩
          · refine (inductionHypothesis later).imp_right fun ⟨next, shown⟩ => ?_
            exact ⟨next, List.mem_cons_of_mem _ shown⟩

namespace Links

variable {links : Links} {address next : UInt64}

/-- An address lies in the group of one leader only. -/
theorem IsGroup.leader_unique {leader other : UInt64} {members others : List UInt64}
    (group : links.IsGroup leader members) (otherGroup : links.IsGroup other others)
    (member : address ∈ members) (shared : address ∈ others) : leader = other := by
  obtain ⟨rest, same⟩ := List.head?_eq_some_iff.mp group.starts
  -- Sharing a member means sharing its predecessor, down to the leader.
  refine group.joined.induction (fun address => address ∈ others → leader = other) members ?_ ?_
    address member shared
  · intro address next joined shares sharedNext
    obtain ⟨source, sharedSource, back⟩ := otherGroup.exists_joined sharedNext joined.not_isLeader
    exact shares (joined.address_eq back.edge ▸ sharedSource)
  · intro nonempty sharedFirst
    subst same
    rw [List.head_cons] at sharedFirst
    obtain ⟨otherRest, otherSame⟩ := List.head?_eq_some_iff.mp otherGroup.starts
    subst otherSame
    rcases List.mem_cons.mp sharedFirst with same | later
    · exact same
    · obtain ⟨_, _, _, _, joined⟩ := exists_joined_of_mem_tail otherGroup.joined later
      exact absurd group.leads (by simp [joined.not_isLeader])

/-- Two addresses that were executed one after the other are joined exactly when no trace shows
a boundary or another way at either of them. -/
theorem joined_ofPaths_iff {decoder : Decoder} {paths : List (List UInt64)} {path : List UInt64}
    (observed : path ∈ paths) (shown : (address, next) ∈ neighbours path) :
    (ofPaths decoder paths).Joined address next ↔
      decoder.endsHandler address = false ∧
        (∀ other ∈ paths, ∀ target, (address, target) ∈ neighbours other → target = next) ∧
        (∀ other ∈ paths, ∀ source, (source, next) ∈ neighbours other → source = address) ∧
        ∀ other ∈ paths, other.head? ≠ some next := by
  have known : (address, next) ∈ (ofPaths decoder paths).edges :=
    mem_edges_ofPaths.mpr ⟨path, observed, shown⟩
  have executed : address ∈ (ofPaths decoder paths).addresses :=
    mem_addresses_ofPaths.mpr ⟨path, observed, (mem_of_mem_neighbours shown).1⟩
  have broken := decoded_ofPaths decoder paths address
  simp only [executed, true_and] at broken
  rw [joined_iff (nodup_edges_ofPaths decoder paths) known, broken]
  simp only [mem_edges_ofPaths, mem_starts_ofPaths, Bool.not_eq_true, not_exists, not_and,
    forall_exists_index, and_imp]
  constructor
  · rintro ⟨unbroken, onward, back, within⟩
    exact ⟨unbroken, fun other observed target => onward target other observed,
      fun other observed source => back source other observed, within⟩
  · rintro ⟨unbroken, onward, back, within⟩
    exact ⟨unbroken, fun target other observed => onward other observed target,
      fun source other observed => back other observed source, within⟩

end Links

namespace Grouping

variable {decoder : Decoder} {paths : List (List UInt64)} {address next : UInt64}

/-- Every executed address lies in a group. -/
theorem exists_group_of_mem (decoder : Decoder) {path : List UInt64} (observed : path ∈ paths)
    (executed : address ∈ path) :
    ∃ leader members,
      (ofRounds decoder paths).groupAt? leader = some members ∧ address ∈ members := by
  let steps := path.map fun address => ({ address, registers := {} } : Step)
  have same : steps.map Step.address = path := by simp [steps, Function.comp_def]
  obtain ⟨divides, -⟩ :=
    (Walker.onTrack_ofSteps decoder (same.symm ▸ observed)).occurrences
  rw [← same, ← show _ = steps from divides.complete] at executed
  obtain ⟨step, taken, rfl⟩ := List.mem_map.mp executed
  obtain ⟨occurrence, handedOut, within⟩ := List.mem_flatMap.mp taken
  obtain ⟨leader, members, -, found, begins⟩ := divides.started occurrence handedOut
  exact ⟨leader, members, found, begins.subset (List.mem_map_of_mem within)⟩

/-- A group contains executed addresses only. -/
theorem executed_of_mem_group {leader : UInt64} {members : List UInt64}
    (found : (ofRounds decoder paths).groupAt? leader = some members) (member : address ∈ members) :
    ∃ path ∈ paths, address ∈ path := by
  rw [ofRounds_eq] at found
  obtain ⟨known, -, -⟩ := Links.groupAt?_eq_some_iff.mp found
  have group := Links.isGroup_of_groupAt? found
  refine group.joined.induction (fun address => ∃ path ∈ paths, address ∈ path) members ?_ ?_
    address member
  · intro address next joined _
    obtain ⟨path, observed, shown⟩ := Links.mem_edges_ofPaths.mp joined.edge
    exact ⟨path, observed, (mem_of_mem_neighbours shown).2⟩
  · intro nonempty
    rw [(List.head_eq_iff_head?_eq_some nonempty).mpr group.starts]
    exact Links.mem_addresses_ofPaths.mp known

/-- Addresses are neighbours in a group exactly when they are joined. -/
theorem neighbours_in_group_iff {path : List UInt64} (observed : path ∈ paths)
    (executed : address ∈ path) :
    (∃ leader members, (ofRounds decoder paths).groupAt? leader = some members ∧
        (address, next) ∈ neighbours members) ↔
      (Links.ofPaths decoder paths).Joined address next := by
  constructor
  · rintro ⟨leader, members, found, shown⟩
    rw [ofRounds_eq] at found
    have group := Links.isGroup_of_groupAt? found
    exact (isChain_iff_neighbours members).mp group.joined _ shown
  · intro joined
    obtain ⟨leader, members, found, member⟩ :=
      exists_group_of_mem decoder observed executed
    refine ⟨leader, members, found, ?_⟩
    rw [ofRounds_eq] at found
    have group := Links.isGroup_of_groupAt? found
    rcases getLast?_or_neighbour member with isLast | ⟨other, shown⟩
    · exact absurd joined (group.ends address isLast next)
    · have inner := (isChain_iff_neighbours members).mp group.joined _ shown
      rwa [inner.next_eq joined.edge]

end Grouping

/-- After any traces have been added and the groups renewed, every executed address lies in
exactly one group; a group starts at the address it is found by, contains no address twice and
executed addresses only; and two addresses that were executed one after the other are neighbours
in a group exactly when the first does not end a handler, control never went anywhere else from
the first or came from anywhere else to the second, and no trace starts at the second. -/
theorem groups_partition_traces (decoder : Decoder) (paths : List (List UInt64)) :
    let grouping := (Grouping.addAll decoder {} paths).renew
    (∀ address, (∃ path ∈ paths, address ∈ path) →
        ∃! leader, ∃ members, grouping.groupAt? leader = some members ∧ address ∈ members) ∧
      (∀ leader members, grouping.groupAt? leader = some members →
        members.head? = some leader ∧ members.Nodup ∧
          ∀ address ∈ members, ∃ path ∈ paths, address ∈ path) ∧
      ∀ path ∈ paths, ∀ address next, (address, next) ∈ neighbours path →
        ((∃ leader members, grouping.groupAt? leader = some members ∧
            (address, next) ∈ neighbours members) ↔
          decoder.endsHandler address = false ∧
            (∀ other ∈ paths, ∀ target, (address, target) ∈ neighbours other → target = next) ∧
            (∀ other ∈ paths, ∀ source, (source, next) ∈ neighbours other → source = address) ∧
            ∀ other ∈ paths, other.head? ≠ some next) := by
  intro grouping
  have accumulated : grouping = .ofRounds decoder paths := Grouping.renew_addAll decoder paths
  rw [accumulated]
  refine ⟨?_, ?_, ?_⟩
  · rintro address ⟨path, observed, executed⟩
    obtain ⟨leader, members, found, member⟩ :=
      Grouping.exists_group_of_mem decoder observed executed
    refine ⟨leader, ⟨members, found, member⟩, ?_⟩
    rintro other ⟨others, otherFound, shared⟩
    rw [Grouping.ofRounds_eq] at found otherFound
    exact (Links.isGroup_of_groupAt? otherFound).leader_unique (Links.isGroup_of_groupAt? found)
      shared member
  · intro leader members found
    have executed : ∀ address ∈ members, ∃ path ∈ paths, address ∈ path :=
      fun _ member => Grouping.executed_of_mem_group found member
    rw [Grouping.ofRounds_eq] at found
    have group := Links.isGroup_of_groupAt? found
    exact ⟨group.starts, group.distinct, executed⟩
  · intro path observed address next shown
    have executed := (mem_of_mem_neighbours shown).1
    rw [Grouping.neighbours_in_group_iff observed executed,
      Links.joined_ofPaths_iff observed shown]

/-- The body of a loop is a group of its own. -/
theorem groups_partition_loop :
    let grouping := (Grouping.addAll { decode := fun _ => none } {} [[1, 2, 3, 2, 3, 4]]).renew
    (∃! leader, ∃ members, grouping.groupAt? leader = some members ∧ 3 ∈ members) ∧
      ∃ leader members, grouping.groupAt? leader = some members ∧ (2, 3) ∈ neighbours members := by
  have partition := groups_partition_traces { decode := fun _ => none } [[1, 2, 3, 2, 3, 4]]
  refine ⟨partition.1 3 ⟨_, List.mem_singleton_self _, by decide⟩, ?_⟩
  refine (partition.2.2 _ (List.mem_singleton_self _) 2 3 (by decide)).mpr ⟨rfl, ?_, ?_, ?_⟩
  · simp [neighbours]
  · simp [neighbours]
  · simp

end VmRecovery.Trace

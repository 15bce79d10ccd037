import VmRecovery.Proofs.Trace.Agreement
import VmRecovery.Proofs.Trace.Partition

/-!
# Further traces refine the groups

A further trace can show another way at an address, or a boundary there, but it cannot take one
back. Two addresses that are joined afterwards were therefore joined before, provided that the
second had been executed then (`Links.Joined.before`). So leaders stay leaders, groups are split
and never merged, and a group grows only at an end that control had never gone on from
(`further_trace_refines_groups`).
-/

namespace VmRecovery.Trace

open Native

/-- A member of a path is its first one or has a neighbour before it. -/
theorem head?_or_neighbour {path : List UInt64} {address : UInt64} (member : address ∈ path) :
    path.head? = some address ∨ ∃ source, (source, address) ∈ neighbours path := by
  induction path with
  | nil => cases member
  | cons first rest inductionHypothesis =>
      rcases List.mem_cons.mp member with rfl | later
      · exact .inl rfl
      · cases rest with
        | nil => cases later
        | cons second rest =>
            rw [neighbours_cons_cons]
            rcases inductionHypothesis later with isFirst | ⟨source, shown⟩
            · obtain rfl : second = address := by simpa using isFirst
              exact .inr ⟨first, List.mem_cons_self⟩
            · exact .inr ⟨source, List.mem_cons_of_mem _ shown⟩

namespace Links

variable {decoder : Decoder} {links later : Links} {address next leader other : UInt64}
  {members others : List UInt64}

/-- Links that come from traces: an address starts a trace or was arrived at, and what was arrived
at has been executed. -/
structure Traced (links : Links) : Prop where
  reached : ∀ address ∈ links.addresses,
    address ∈ links.starts ∨ ∃ source, (source, address) ∈ links.edges
  executed : ∀ edge ∈ links.edges, edge.2 ∈ links.addresses
  distinct : links.edges.Nodup

theorem traced_ofPaths (decoder : Decoder) (paths : List (List UInt64)) :
    (ofPaths decoder paths).Traced where
  reached := by
    intro address executed
    obtain ⟨path, observed, member⟩ := mem_addresses_ofPaths.mp executed
    rcases head?_or_neighbour member with isFirst | ⟨source, shown⟩
    · exact .inl (mem_starts_ofPaths.mpr ⟨path, observed, isFirst⟩)
    · exact .inr ⟨source, mem_edges_ofPaths.mpr ⟨path, observed, shown⟩⟩
  executed := by
    intro edge known
    obtain ⟨path, observed, shown⟩ := mem_edges_ofPaths.mp known
    exact mem_addresses_ofPaths.mpr ⟨path, observed, (mem_of_mem_neighbours shown).2⟩
  distinct := nodup_edges_ofPaths decoder paths

/-- Later links that still have all that was observed. -/
structure Grows (links later : Links) : Prop where
  addresses : links.addresses ⊆ later.addresses
  starts : links.starts ⊆ later.starts
  breaks : links.breaks ⊆ later.breaks
  edges : links.edges ⊆ later.edges

theorem grows_ofPaths (decoder : Decoder) (earlier further : List (List UInt64)) :
    (ofPaths decoder earlier).Grows (ofPaths decoder (earlier ++ further)) := by
  have executed : (ofPaths decoder earlier).addresses ⊆
      (ofPaths decoder (earlier ++ further)).addresses := by
    intro address known
    obtain ⟨path, observed, member⟩ := mem_addresses_ofPaths.mp known
    exact mem_addresses_ofPaths.mpr ⟨path, List.mem_append_left further observed, member⟩
  refine ⟨executed, fun address known => ?_, fun address broken => ?_,
    edges_subset_ofPaths_append earlier further⟩
  · obtain ⟨path, observed, isFirst⟩ := mem_starts_ofPaths.mp known
    exact mem_starts_ofPaths.mpr ⟨path, List.mem_append_left further observed, isFirst⟩
  · obtain ⟨known, ends⟩ := (decoded_ofPaths decoder earlier address).mp broken
    exact (decoded_ofPaths decoder _ address).mpr ⟨executed known, ends⟩

/-- Addresses that are joined later were joined as soon as the second one had been executed. It
starts no trace even later, so something had come before it, and only the first address can. -/
theorem Joined.before (joined : later.Joined address next) (grows : links.Grows later)
    (traced : links.Traced) (known : next ∈ links.addresses) : links.Joined address next := by
  have within : next ∉ links.starts := fun start => joined.within (grows.starts start)
  obtain ⟨source, arrived⟩ := (traced.reached next known).resolve_left within
  obtain rfl : source = address := joined.address_eq (grows.edges arrived)
  refine (joined_iff traced.distinct arrived).mpr ⟨?_, ?_, ?_, within⟩
  · exact fun broken => joined.unbroken (grows.breaks broken)
  · exact fun _ went => joined.next_eq (grows.edges went)
  · exact fun _ came => joined.address_eq (grows.edges came)

/-- A leader stays one. -/
theorem Grows.isLeader (grows : links.Grows later) (traced : links.Traced)
    (known : address ∈ links.addresses) (leads : links.isLeader address = true) :
    later.isLeader address = true := by
  by_contra follower
  obtain ⟨source, joined⟩ := isLeader_eq_false_iff.mp (by simpa using follower)
  have earlier := joined.before grows traced known
  simp [earlier.not_isLeader] at leads

/-- A path of addresses that are joined later lies in an earlier group from its start up to any
member of that group. -/
theorem IsGroup.head_mem_of_isChain (group : links.IsGroup leader members)
    (grows : links.Grows later) (traced : links.Traced) (known : members ⊆ links.addresses)
    {first : UInt64} {rest : List UInt64} (joined : (first :: rest).IsChain later.Joined)
    (onPath : address ∈ first :: rest) (member : address ∈ members) : first ∈ members := by
  induction rest generalizing first with
  | nil => exact List.mem_singleton.mp onPath ▸ member
  | cons second rest inductionHypothesis =>
      rcases List.mem_cons.mp onPath with rfl | further
      · exact member
      · obtain ⟨onward, joinedRest⟩ := List.isChain_cons_cons.mp joined
        have secondMember : second ∈ members := inductionHypothesis joinedRest further
        have earlier := onward.before grows traced (known secondMember)
        obtain ⟨source, sourceMember, back⟩ :=
          group.exists_joined secondMember earlier.not_isLeader
        exact earlier.address_eq back.edge ▸ sourceMember

/-- Groups are not merged: two addresses of one later group have been in one group. -/
theorem IsGroup.leader_eq_of_later (group : links.IsGroup leader members)
    (otherGroup : links.IsGroup other others) (grows : links.Grows later) (traced : links.Traced)
    (known : members ⊆ links.addresses) (otherKnown : others ⊆ links.addresses)
    {joint : UInt64} {jointMembers : List UInt64} (jointGroup : later.IsGroup joint jointMembers)
    (member : address ∈ members) (otherMember : next ∈ others)
    (within : address ∈ jointMembers) (otherWithin : next ∈ jointMembers) : leader = other := by
  obtain ⟨rest, rfl⟩ := List.head?_eq_some_iff.mp jointGroup.starts
  -- The joint leader has been in both groups.
  exact group.leader_unique otherGroup
    (group.head_mem_of_isChain grows traced known jointGroup.joined within member)
    (otherGroup.head_mem_of_isChain grows traced otherKnown jointGroup.joined otherWithin
      otherMember)

/-- A group grows only where control had never gone on from its end. -/
theorem IsGroup.successors_eq_nil_of_longer (group : links.IsGroup leader members)
    (laterGroup : later.IsGroup leader others) (grows : links.Grows later)
    (traced : links.Traced) (longer : members.length < others.length) {last : UInt64}
    (isLast : last ∈ members.getLast?) : (last, next) ∉ links.edges := by
  intro went
  rcases group.comparable laterGroup grows.edges with begins | shorter
  · obtain ⟨rest, rfl⟩ := begins
    cases rest with
    | nil => simp at longer
    | cons following rest =>
        have onward : later.Joined last following :=
          (List.isChain_append.mp laterGroup.joined).2.2 last isLast following rfl
        obtain rfl : next = following := onward.next_eq (grows.edges went)
        have earlier := onward.before grows traced (traced.executed _ went)
        exact group.ends last isLast _ earlier
  · exact absurd shorter.length_le (Nat.not_le.mpr longer)

end Links

namespace Grouping

variable {decoder : Decoder} {actions : List Action} {leader : UInt64} {members : List UInt64}

/-- A group in force contains addresses that have been executed. -/
theorem subset_addresses_of_groupAt? {paths : List (List UInt64)}
    (found : (ofRounds decoder paths).groupAt? leader = some members) :
    members ⊆ (Links.ofPaths decoder paths).addresses :=
  fun _ member => Links.mem_addresses_ofPaths.mpr (executed_of_mem_group found member)

end Grouping

open Grouping in
/-- A further trace refines the groups in force. Whatever traces were added before, and with
whatever renewals in between: where a group starts, one starts afterwards, and one of them is the
beginning of the other; it is longer afterwards only if no earlier trace had gone on from its end.
Addresses of different groups do not come to lie in one group. -/
theorem further_trace_refines_groups (decoder : Decoder) (actions : List Action)
    (path : List UInt64) :
    let before := (ofActions decoder actions).renew
    let after := (before.add decoder path).renew
    (∀ leader members, before.groupAt? leader = some members →
        ∃ afterwards, after.groupAt? leader = some afterwards ∧
          (members <+: afterwards ∨ afterwards <+: members) ∧
          (members.length < afterwards.length → ∀ last ∈ members.getLast?,
            ∀ earlier, .add earlier ∈ actions → ∀ next, (last, next) ∉ neighbours earlier)) ∧
      ∀ leader other members others, before.groupAt? leader = some members →
        before.groupAt? other = some others → leader ≠ other →
          ∀ address ∈ members, ∀ next ∈ others, ∀ joint jointMembers,
            after.groupAt? joint = some jointMembers →
              ¬ (address ∈ jointMembers ∧ next ∈ jointMembers) := by
  intro before after
  -- Either grouping is that of its traces, so that earlier renewals do not matter.
  have isBefore : before.grouped = Links.ofPaths decoder (added actions) :=
    grouped_renew_ofActions decoder actions
  have isAfter : after.grouped = Links.ofPaths decoder (added actions ++ [path]) := by
    rw [Links.ofPaths_append_singleton, ← links_ofActions]
    rfl
  have grows := Links.grows_ofPaths decoder (added actions) [path]
  have traced := Links.traced_ofPaths decoder (added actions)
  have known : ∀ leader members, before.groupAt? leader = some members →
      members ⊆ (Links.ofPaths decoder (added actions)).addresses := by
    intro leader members found
    rw [groupAt?, isBefore] at found
    exact subset_addresses_of_groupAt? (by rwa [ofRounds_eq])
  simp only [groupAt?, isBefore, isAfter] at known ⊢
  constructor
  · intro leader members found
    obtain ⟨isKnown, leads, -⟩ := Links.groupAt?_eq_some_iff.mp found
    have group := Links.isGroup_of_groupAt? found
    have leadsAfter := grows.isLeader traced isKnown leads
    have groupAfter := Links.isGroup_chain leadsAfter
    refine ⟨_, Links.groupAt?_eq_some_iff.mpr ⟨grows.addresses isKnown, leadsAfter, rfl⟩,
      group.comparable groupAfter grows.edges, ?_⟩
    intro longer last isLast earlier isAdded next shown
    exact group.successors_eq_nil_of_longer groupAfter grows traced longer isLast
      (Links.mem_edges_ofPaths.mpr ⟨earlier, mem_added.mpr isAdded, shown⟩)
  · rintro leader other members others found otherFound apart address member next otherMember joint
      jointMembers jointFound ⟨within, otherWithin⟩
    exact apart ((Links.isGroup_of_groupAt? found).leader_eq_of_later
      (Links.isGroup_of_groupAt? otherFound) grows traced (known _ _ found) (known _ _ otherFound)
      (Links.isGroup_of_groupAt? jointFound) member otherMember within otherWithin)

/-- The part behind a loop grows when a trace goes on from it; the loop and the way into it stay
apart. -/
theorem further_trace_prolongs_exit :
    let decoder : Decoder := { decode := fun _ => none }
    let before := (Grouping.ofActions decoder [.add [1, 2, 3, 2, 4]]).renew
    let after := (before.add decoder [1, 2, 4, 5]).renew
    before.groupAt? 4 = some [4] ∧ after.groupAt? 4 = some [4, 5] ∧
      (∀ earlier, .add earlier ∈ [Grouping.Action.add [1, 2, 3, 2, 4]] →
        ∀ next, (4, next) ∉ neighbours earlier) ∧
      ∀ joint members, after.groupAt? joint = some members → ¬ (1 ∈ members ∧ 2 ∈ members) := by
  intro decoder before after
  have short : before.groupAt? 4 = some [4] := by decide +kernel
  have long : after.groupAt? 4 = some [4, 5] := by decide +kernel
  have first : before.groupAt? 1 = some [1] := by decide +kernel
  have second : before.groupAt? 2 = some [2] := by decide +kernel
  obtain ⟨kept, apart⟩ :=
    further_trace_refines_groups decoder [.add [1, 2, 3, 2, 4]] [1, 2, 4, 5]
  obtain ⟨afterwards, found, -, fresh⟩ := kept 4 [4] short
  obtain rfl : [4, 5] = afterwards := Option.some.inj (long.symm.trans found)
  exact ⟨short, long, fresh (by decide) 4 rfl,
    apart 1 2 [1] [2] first second (by decide) 1 (by simp) 2 (by simp)⟩

end VmRecovery.Trace

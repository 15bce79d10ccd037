import VmRecovery.Proofs.Trace.Observation

/-!
# What a group consists of

Two addresses are joined when control passed from the first to the second and in no other way.
An address is no leader exactly when it is joined to a predecessor (`isLeader_eq_false_iff`),
and joined pairs determine each other. The group of a leader is therefore the longest joined
path from it (`isGroup_chain`); the search for it never runs into a cycle.
-/

namespace VmRecovery.Trace.Links

open Native

variable {links : Links} {address next other : UInt64}

/-- The successors of an address are those that a pair leads to from it. -/
theorem mem_successors : next ∈ links.successors address ↔ (address, next) ∈ links.edges := by
  simp only [successors, List.mem_map, List.mem_filter, beq_iff_eq]
  constructor
  · rintro ⟨⟨source, target⟩, ⟨known, rfl⟩, rfl⟩
    exact known
  · intro known
    exact ⟨(address, next), ⟨known, rfl⟩, rfl⟩

/-- The predecessors of an address are those that a pair leads from to it. -/
theorem mem_predecessors : address ∈ links.predecessors next ↔ (address, next) ∈ links.edges := by
  simp only [predecessors, List.mem_map, List.mem_filter, beq_iff_eq]
  constructor
  · rintro ⟨⟨source, target⟩, ⟨known, rfl⟩, rfl⟩
    exact known
  · intro known
    exact ⟨(address, next), ⟨known, rfl⟩, rfl⟩

/-- Control passed from an address to the next one and in no other way: the first never went
anywhere else, the second was never reached from anywhere else, and neither a handler nor a
trace has its boundary between them. -/
structure Joined (links : Links) (address next : UInt64) : Prop where
  unbroken : address ∉ links.breaks
  onward : links.successors address = [next]
  back : links.predecessors next = [address]
  within : next ∉ links.starts

namespace Joined

/-- A joined address is followed by nothing else. -/
theorem next_eq (joined : links.Joined address next) (known : (address, other) ∈ links.edges) :
    other = next := by
  have follows := mem_successors.mpr known
  rw [joined.onward] at follows
  exact List.mem_singleton.mp follows

/-- A joined address follows nothing else. -/
theorem address_eq (joined : links.Joined address next) (known : (other, next) ∈ links.edges) :
    other = address := by
  have precedes := mem_predecessors.mpr known
  rw [joined.back] at precedes
  exact List.mem_singleton.mp precedes

/-- Joined addresses were executed one directly after the other. -/
theorem edge (joined : links.Joined address next) : (address, next) ∈ links.edges :=
  mem_successors.mp (joined.onward ▸ List.mem_singleton_self next)

end Joined

/-- Only an address that is joined to a predecessor is no leader. -/
theorem isLeader_eq_false_iff :
    links.isLeader next = false ↔ ∃ address, links.Joined address next := by
  constructor
  · intro follower
    simp only [isLeader, Bool.or_eq_false_iff] at follower
    obtain ⟨notStart, follower⟩ := follower
    split at follower
    · rename_i address back
      simp only [Bool.or_eq_false_iff, bne_eq_false_iff_eq] at follower
      obtain ⟨unbroken, single⟩ := follower
      obtain ⟨only, onward⟩ := List.length_eq_one_iff.mp single
      have known : (address, next) ∈ links.edges := mem_predecessors.mp (by simp [back])
      have follows := mem_successors.mpr known
      rw [onward, List.mem_singleton] at follows
      exact ⟨address, by simpa using unbroken, follows ▸ onward, back, by simpa using notStart⟩
    · cases follower
  · rintro ⟨address, joined⟩
    simp [isLeader, joined.back, joined.onward, joined.unbroken, joined.within]

/-- An address that is joined to a predecessor does not lead. -/
theorem Joined.not_isLeader (joined : links.Joined address next) : links.isLeader next = false :=
  isLeader_eq_false_iff.mpr ⟨address, joined⟩

/-- An edge whose end is no leader joins the two addresses. -/
theorem joined_of_edge (known : (address, next) ∈ links.edges)
    (follower : links.isLeader next = false) : links.Joined address next := by
  obtain ⟨source, joined⟩ := isLeader_eq_false_iff.mp follower
  exact joined.address_eq known ▸ joined

/-- A list whose only member is known. -/
private theorem eq_singleton_iff {α : Type} {list : List α} (distinct : list.Nodup) (only : α) :
    list = [only] ↔ only ∈ list ∧ ∀ member ∈ list, member = only := by
  constructor
  · rintro rfl
    simp
  · rintro ⟨member, unique⟩
    exact List.perm_singleton.mp
      ((List.perm_ext_iff_of_nodup distinct (List.nodup_singleton only)).mpr
        fun other => by
          rw [List.mem_singleton]
          exact ⟨unique other, fun same => same ▸ member⟩)

/-- A successor is listed once if pairs are. -/
theorem nodup_successors (distinct : links.edges.Nodup) (address : UInt64) :
    (links.successors address).Nodup := by
  refine List.Nodup.map_on ?_ (distinct.filter _)
  rintro ⟨source, target⟩ fromHere ⟨source', target'⟩ fromHere' same
  simp only [List.mem_filter, beq_iff_eq] at fromHere fromHere'
  exact Prod.ext (fromHere.2.trans fromHere'.2.symm) same

/-- A predecessor is listed once if pairs are. -/
theorem nodup_predecessors (distinct : links.edges.Nodup) (address : UInt64) :
    (links.predecessors address).Nodup := by
  refine List.Nodup.map_on ?_ (distinct.filter _)
  rintro ⟨source, target⟩ toHere ⟨source', target'⟩ toHere' same
  simp only [List.mem_filter, beq_iff_eq] at toHere toHere'
  exact Prod.ext same (toHere.2.trans toHere'.2.symm)

/-- Two addresses that were executed one after the other are joined exactly when nothing else
was observed at either of them. -/
theorem joined_iff (distinct : links.edges.Nodup) (known : (address, next) ∈ links.edges) :
    links.Joined address next ↔
      address ∉ links.breaks ∧ (∀ other, (address, other) ∈ links.edges → other = next) ∧
        (∀ other, (other, next) ∈ links.edges → other = address) ∧ next ∉ links.starts := by
  constructor
  · intro joined
    exact ⟨joined.unbroken, fun _ => joined.next_eq, fun _ => joined.address_eq, joined.within⟩
  · rintro ⟨unbroken, onward, back, within⟩
    refine ⟨unbroken, ?_, ?_, within⟩
    · refine (eq_singleton_iff (nodup_successors distinct address) next).mpr ⟨?_, ?_⟩
      · exact mem_successors.mpr known
      · exact fun other follows => onward other (mem_successors.mp follows)
    · refine (eq_singleton_iff (nodup_predecessors distinct next) address).mpr ⟨?_, ?_⟩
      · exact mem_predecessors.mpr known
      · exact fun other precedes => back other (mem_predecessors.mp precedes)

/-- The longest joined path from a leader, which visits no address twice. -/
structure IsGroup (links : Links) (leader : UInt64) (members : List UInt64) : Prop where
  leads : links.isLeader leader = true
  starts : members.head? = some leader
  joined : members.IsChain links.Joined
  distinct : members.Nodup
  ends : ∀ last ∈ members.getLast?, ∀ next, ¬ links.Joined last next

/-- The next address is looked at where control has one way to go. -/
theorem prolong_of_onward (path : List UInt64) {last : UInt64}
    (unbroken : ¬ links.breaks.contains last) (follows : links.successors last = [next]) :
    links.prolong path last =
      if links.isLeader next ∨ next ∈ path then path
      else links.prolong (path ++ [next]) next := by
  rw [prolong, if_neg unbroken]
  split
  · rename_i only same
    obtain rfl : next = only := by simpa using follows.symm.trans same
    rfl
  · rename_i several
    exact absurd follows (several next)

/-- A prolonged path stays joined and without repetition, and whatever its end is joined to lies
on the path already. -/
theorem prolong_spec (path : List UInt64) (last : UInt64) (atEnd : path.getLast? = some last)
    (joined : path.IsChain links.Joined) (distinct : path.Nodup) :
    path <+: links.prolong path last ∧ (links.prolong path last).IsChain links.Joined ∧
      (links.prolong path last).Nodup ∧
      ∀ final ∈ (links.prolong path last).getLast?, ∀ next, links.Joined final next →
        next ∈ links.prolong path last := by
  induction path, last using prolong.induct links with
  | case1 path last broken =>
      rw [prolong, if_pos broken]
      refine ⟨List.prefix_refl path, joined, distinct, fun final isFinal next onward => ?_⟩
      obtain rfl : last = final := Option.some.inj (atEnd.symm.trans isFinal)
      exact absurd (by simpa using broken) onward.unbroken
  | case2 path last unbroken next follows stops =>
      -- A next address that leads a group is joined to nothing; any other one is on the path.
      have stopped : links.prolong path last = path := by
        rw [prolong_of_onward path unbroken follows, if_pos stops]
      rw [stopped]
      refine ⟨List.prefix_refl path, joined, distinct, fun final isFinal other onward => ?_⟩
      obtain rfl : last = final := Option.some.inj (atEnd.symm.trans isFinal)
      obtain rfl : next = other := by simpa using follows.symm.trans onward.onward
      exact stops.resolve_left (by simp [onward.not_isLeader])
  | case3 path last unbroken next follows goesOn inductionHypothesis =>
      have prolonged : links.prolong path last = links.prolong (path ++ [next]) next := by
        rw [prolong_of_onward path unbroken follows, if_neg goesOn]
      obtain ⟨follower, new⟩ := not_or.mp goesOn
      have known : (last, next) ∈ links.edges := mem_successors.mp (by simp [follows])
      have onward : links.Joined last next := joined_of_edge known (by simpa using follower)
      have longer := inductionHypothesis (by simp)
        (joined.append (List.isChain_singleton next) (by
          intro final isFinal first isFirst
          obtain rfl : last = final := Option.some.inj (atEnd.symm.trans isFinal)
          obtain rfl : next = first := by simpa using isFirst
          exact onward))
        (distinct.append (List.nodup_singleton next) (List.disjoint_singleton.mpr new))
      rw [prolonged]
      exact ⟨(List.prefix_append path [next]).trans longer.1, longer.2⟩
  | case4 path last unbroken several =>
      have stopped : links.prolong path last = path := by
        rw [prolong, if_neg unbroken]
        split
        · rename_i only same
          exact absurd same (several only)
        · rfl
      rw [stopped]
      refine ⟨List.prefix_refl path, joined, distinct, fun final isFinal next onward => ?_⟩
      obtain rfl : last = final := Option.some.inj (atEnd.symm.trans isFinal)
      exact absurd onward.onward (several next)

/-- A member of a joined path other than its first has its predecessor on the path. -/
theorem exists_joined_of_mem_tail {path : List UInt64} (joined : path.IsChain links.Joined)
    (member : next ∈ path.tail) :
    ∃ before address after,
      path = before ++ address :: next :: after ∧ links.Joined address next := by
  induction path with
  | nil => cases member
  | cons first rest inductionHypothesis =>
      cases rest with
      | nil => cases member
      | cons second rest =>
          rw [List.isChain_cons_cons] at joined
          rcases List.mem_cons.mp member with rfl | later
          · exact ⟨[], first, rest, rfl, joined.1⟩
          · obtain ⟨before, address, after, same, onward⟩ := inductionHypothesis joined.2 later
            exact ⟨first :: before, address, after, by rw [same, List.cons_append], onward⟩

/-- The members of the group of a leader. -/
theorem isGroup_chain {leader : UInt64} (leads : links.isLeader leader = true) :
    links.IsGroup leader (links.chain leader) := by
  obtain ⟨extends_, joined, distinct, closed⟩ :=
    links.prolong_spec [leader] leader rfl (List.isChain_singleton leader)
      (List.nodup_singleton leader)
  obtain ⟨rest, same⟩ := extends_
  have starts : (links.chain leader).head? = some leader := by
    rw [chain, ← same]
    rfl
  refine ⟨leads, starts, joined, distinct, fun last isLast next onward => ?_⟩
  -- The end could only be joined to a later member of the path, whose predecessor it is already.
  have member : next ∈ links.chain leader := closed last isLast next onward
  have later : next ∈ (links.chain leader).tail := by
    rw [chain, ← same] at member ⊢
    rcases List.mem_cons.mp member with rfl | later
    · simp [onward.not_isLeader] at leads
    · exact later
  obtain ⟨before, address, after, split, inner⟩ := exists_joined_of_mem_tail joined later
  obtain rfl : last = address := inner.address_eq onward.edge
  rw [chain] at isLast
  rw [split] at distinct isLast
  have again : last ∈ next :: after := by
    rw [List.getLast?_append_of_ne_nil _ (by simp), List.getLast?_cons_cons] at isLast
    exact List.mem_of_getLast? isLast
  exact (List.nodup_cons.mp (List.nodup_append.mp distinct).2.1).1 again

/-- Groups start at the known leaders. -/
theorem groupAt?_eq_some_iff {members : List UInt64} :
    links.groupAt? address = some members ↔
      address ∈ links.addresses ∧ links.isLeader address = true ∧
        links.chain address = members := by
  simp [groupAt?, and_assoc]

/-- The group that is found at an address is its group. -/
theorem isGroup_of_groupAt? {members : List UInt64}
    (found : links.groupAt? address = some members) : links.IsGroup address members := by
  obtain ⟨-, leads, rfl⟩ := groupAt?_eq_some_iff.mp found
  exact isGroup_chain leads

namespace IsGroup

variable {leader : UInt64} {members : List UInt64}

/-- A group has at least its leader. -/
theorem ne_nil (group : links.IsGroup leader members) : members ≠ [] := by
  rintro rfl
  cases group.starts

/-- Only the first member is a leader; every other one has its predecessor in the group. -/
theorem exists_joined (group : links.IsGroup leader members) (member : next ∈ members)
    (follower : links.isLeader next = false) : ∃ address ∈ members, links.Joined address next := by
  obtain ⟨rest, same⟩ := List.head?_eq_some_iff.mp group.starts
  have later : next ∈ members.tail := by
    rw [same] at member ⊢
    rcases List.mem_cons.mp member with rfl | later
    · simp [group.leads] at follower
    · exact later
  obtain ⟨before, address, after, split, joined⟩ := exists_joined_of_mem_tail group.joined later
  exact ⟨address, by simp [split], joined⟩

/-- Where control went on from the end of a group, another group starts. -/
theorem isLeader_of_edge {last : UInt64} (group : links.IsGroup leader members)
    (isLast : last ∈ members.getLast?) (known : (last, next) ∈ links.edges) :
    links.isLeader next = true := by
  by_contra follower
  exact group.ends last isLast next (joined_of_edge known (by simpa using follower))

end IsGroup

end VmRecovery.Trace.Links

import VmRecovery.Proofs.Trace.Range

/-!
# Groups depend on what was observed only

Traces are added in some order, some of them more than once, and the groups are renewed in
between. Nothing of this shows in the groups: links that have observed the same agree, whatever
the order of their lists (`Links.Agrees`), agreeing links join the same addresses, and an address
has one group at most (`Links.IsGroup.unique`). The groups in force after the last renewal are
therefore determined by the set of the traces (`groups_determined_by_traces`).
-/

namespace VmRecovery.Trace

open Native

namespace Links

variable {decoder : Decoder} {links other : Links} {address next : UInt64}

/-! What links list, they list once. -/

/-- An address that is added again is not repeated. -/
theorem nodup_addresses_addAddress (distinct : links.addresses.Nodup) (address : UInt64) :
    (addAddress decoder links address).addresses.Nodup := by
  unfold addAddress
  split
  · exact distinct
  · rename_i new
    exact List.nodup_cons.mpr ⟨new, distinct⟩

/-- Addresses that are added again are not repeated. -/
theorem nodup_addresses_foldl_addAddress (distinct : links.addresses.Nodup)
    (path : List UInt64) : (path.foldl (addAddress decoder) links).addresses.Nodup := by
  induction path generalizing links with
  | nil => exact distinct
  | cons address rest inductionHypothesis =>
      exact inductionHypothesis (nodup_addresses_addAddress distinct address)

/-- A trace repeats no address that is known. -/
theorem nodup_addresses_addPath (distinct : links.addresses.Nodup) (path : List UInt64) :
    (links.addPath decoder path).addresses.Nodup := by
  cases path with
  | nil => exact distinct
  | cons first rest =>
      have started : ({ links with starts := links.starts.insert first } : Links).addresses.Nodup :=
        distinct
      have after : ((first :: rest).foldl (addAddress decoder)
          { links with starts := links.starts.insert first }).addresses.Nodup :=
        nodup_addresses_foldl_addAddress started _
      simpa [addPath] using after

/-- Every address is known once, however many traces execute it. -/
theorem nodup_addresses_ofPaths (decoder : Decoder) (paths : List (List UInt64)) :
    (ofPaths decoder paths).addresses.Nodup := by
  induction paths using List.reverseRecOn with
  | nil => exact List.nodup_nil
  | append_singleton paths path inductionHypothesis =>
      rw [ofPaths_append_singleton]
      exact nodup_addresses_addPath inductionHypothesis path

/-! Links that have observed the same. -/

/-- Two links have observed the same, in whatever order. -/
structure Agrees (links other : Links) : Prop where
  addresses : links.addresses.Perm other.addresses
  starts : ∀ address, address ∈ links.starts ↔ address ∈ other.starts
  breaks : ∀ address, address ∈ links.breaks ↔ address ∈ other.breaks
  edges : links.edges.Perm other.edges

namespace Agrees

/-- Agreement goes both ways. -/
theorem symm (agrees : links.Agrees other) : other.Agrees links where
  addresses := agrees.addresses.symm
  starts address := (agrees.starts address).symm
  breaks address := (agrees.breaks address).symm
  edges := agrees.edges.symm

/-- Agreeing links know the same successors, in whatever order. -/
theorem successors (agrees : links.Agrees other) (address : UInt64) :
    (links.successors address).Perm (other.successors address) :=
  (agrees.edges.filter _).map _

/-- Agreeing links know the same predecessors, in whatever order. -/
theorem predecessors (agrees : links.Agrees other) (address : UInt64) :
    (links.predecessors address).Perm (other.predecessors address) :=
  (agrees.edges.filter _).map _

/-- The joined addresses are the same: lists with one member have one order only. -/
theorem joined (agrees : links.Agrees other) (joined : links.Joined address next) :
    other.Joined address next where
  unbroken := fun broken => joined.unbroken ((agrees.breaks address).mpr broken)
  onward := List.perm_singleton.mp (joined.onward ▸ (agrees.successors address).symm)
  back := List.perm_singleton.mp (joined.back ▸ (agrees.predecessors next).symm)
  within := fun start => joined.within ((agrees.starts next).mpr start)

/-- Agreeing links join the same addresses. -/
theorem joined_iff (agrees : links.Agrees other) :
    links.Joined address next ↔ other.Joined address next :=
  ⟨agrees.joined, agrees.symm.joined⟩

/-- Agreeing links have the same leaders. -/
theorem isLeader (agrees : links.Agrees other) (address : UInt64) :
    links.isLeader address = other.isLeader address := by
  have followers : links.isLeader address = false ↔ other.isLeader address = false := by
    rw [isLeader_eq_false_iff, isLeader_eq_false_iff]
    exact exists_congr fun _ => agrees.joined_iff
  cases leads : other.isLeader address with
  | false => exact followers.mpr leads
  | true => simpa [leads] using followers

/-- A group of agreeing links is a group of the others. -/
theorem isGroup {leader : UInt64} {members : List UInt64} (agrees : links.Agrees other)
    (group : links.IsGroup leader members) : other.IsGroup leader members where
  leads := (agrees.isLeader leader).symm.trans group.leads
  starts := group.starts
  joined := group.joined.imp fun _ _ => agrees.joined
  distinct := group.distinct
  ends last isLast next onward := group.ends last isLast next (agrees.symm.joined onward)

end Agrees

/-- A group does not go on in another group of its leader: its end is joined to nothing. -/
theorem IsGroup.eq_of_isPrefix_self {leader : UInt64} {members longer : List UInt64}
    (group : links.IsGroup leader members) (longerGroup : links.IsGroup leader longer)
    (begins : members <+: longer) : members = longer := by
  obtain ⟨rest, rfl⟩ := begins
  cases rest with
  | nil => rw [List.append_nil]
  | cons next rest =>
      obtain ⟨last, isLast⟩ := Option.isSome_iff_exists.mp (List.getLast?_isSome.mpr group.ne_nil)
      have onward := (List.isChain_append.mp longerGroup.joined).2.2 last isLast next rfl
      exact absurd onward (group.ends last isLast next)

/-- A leader has one group. -/
theorem IsGroup.unique {leader : UInt64} {members others : List UInt64}
    (group : links.IsGroup leader members) (otherGroup : links.IsGroup leader others) :
    members = others := by
  rcases group.comparable otherGroup (List.Subset.refl _) with shorter | longer
  · exact group.eq_of_isPrefix_self otherGroup shorter
  · exact (otherGroup.eq_of_isPrefix_self group longer).symm

namespace Agrees

/-- A leader has the same group in agreeing links. -/
theorem chain (agrees : links.Agrees other) {leader : UInt64}
    (leads : links.isLeader leader = true) : links.chain leader = other.chain leader :=
  (agrees.isGroup (isGroup_chain leads)).unique
    (isGroup_chain ((agrees.isLeader leader).symm.trans leads))

/-- Agreeing links have the same groups. -/
theorem groupAt? (agrees : links.Agrees other) (address : UInt64) :
    links.groupAt? address = other.groupAt? address := by
  have known : links.addresses.contains address = other.addresses.contains address := by
    rw [Bool.eq_iff_iff, List.contains_iff_mem, List.contains_iff_mem]
    exact agrees.addresses.mem_iff
  rw [Links.groupAt?, Links.groupAt?, known, agrees.isLeader]
  cases leads : other.isLeader address with
  | false => rw [Bool.and_false]; rfl
  | true => rw [agrees.chain ((agrees.isLeader address).trans leads)]

/-- Agreeing links have as many groups. -/
theorem length_leaders (agrees : links.Agrees other) :
    links.leaders.length = other.leaders.length := by
  have same : links.isLeader = other.isLeader := funext agrees.isLeader
  rw [leaders, leaders, same]
  exact (agrees.addresses.filter _).length_eq

end Agrees

/-- The links of the same traces agree. -/
theorem agrees_ofPaths {paths others : List (List UInt64)}
    (same : ∀ path, path ∈ paths ↔ path ∈ others) :
    (ofPaths decoder paths).Agrees (ofPaths decoder others) := by
  have executed : ∀ address, address ∈ (ofPaths decoder paths).addresses ↔
      address ∈ (ofPaths decoder others).addresses := by
    intro address
    simp only [mem_addresses_ofPaths, same]
  refine ⟨?_, fun address => ?_, fun address => ?_, ?_⟩
  · exact (List.perm_ext_iff_of_nodup (nodup_addresses_ofPaths decoder paths)
      (nodup_addresses_ofPaths decoder others)).mpr executed
  · simp only [mem_starts_ofPaths, same]
  · rw [decoded_ofPaths decoder paths address, decoded_ofPaths decoder others address, executed]
  · refine (List.perm_ext_iff_of_nodup (nodup_edges_ofPaths decoder paths)
      (nodup_edges_ofPaths decoder others)).mpr fun edge => ?_
    simp only [mem_edges_ofPaths, same]

/-! A trace that has been added before. -/

/-- What changes a state in no step does not change it in many. -/
theorem foldl_eq_self {α β : Type} {step : β → α → β} {state : β} {items : List α}
    (idle : ∀ item ∈ items, step state item = state) : items.foldl step state = state := by
  induction items with
  | nil => rfl
  | cons item rest inductionHypothesis =>
      obtain ⟨isIdle, restIdle⟩ := List.forall_mem_cons.mp idle
      rw [List.foldl_cons, isIdle, inductionHypothesis restIdle]

/-- Adding a trace again changes nothing. -/
theorem addPath_ofPaths_of_mem {paths : List (List UInt64)} {path : List UInt64}
    (added : path ∈ paths) :
    (ofPaths decoder paths).addPath decoder path = ofPaths decoder paths := by
  cases path with
  | nil => rfl
  | cons first rest =>
      have started : first ∈ (ofPaths decoder paths).starts :=
        mem_starts_ofPaths.mpr ⟨_, added, rfl⟩
      have executed : ∀ address ∈ first :: rest,
          addAddress decoder (ofPaths decoder paths) address = ofPaths decoder paths :=
        fun _ member => if_pos (mem_addresses_ofPaths.mpr ⟨_, added, member⟩)
      have followed : ∀ edge ∈ neighbours (first :: rest),
          addEdge (ofPaths decoder paths) edge = ofPaths decoder paths := by
        intro edge shown
        rw [addEdge, List.insert_of_mem (mem_edges_ofPaths.mpr ⟨_, added, shown⟩)]
      rw [addPath, List.head?_cons]
      dsimp only
      rw [List.insert_of_mem started, foldl_eq_self executed, foldl_eq_self followed]

end Links

namespace Grouping

/-- What is done with a grouping. -/
inductive Action where
  | add (path : List UInt64)
  | renew

/-- The trace that an action adds. -/
def Action.path? : Action → Option (List UInt64)
  | add path => some path
  | renew => none

/-- Performs an action. -/
def perform (decoder : Decoder) (grouping : Grouping) : Action → Grouping
  | .add path => grouping.add decoder path
  | .renew => grouping.renew

/-- The grouping after actions in this order. -/
def ofActions (decoder : Decoder) (actions : List Action) : Grouping :=
  actions.foldl (perform decoder) {}

/-- The traces that actions add, in this order. -/
def added (actions : List Action) : List (List UInt64) :=
  actions.filterMap Action.path?

/-- A trace is among the added ones exactly if some action adds it. -/
theorem mem_added {actions : List Action} {path : List UInt64} :
    path ∈ added actions ↔ .add path ∈ actions := by
  rw [added, List.mem_filterMap]
  constructor
  · rintro ⟨_ | _, member, ⟨⟩⟩
    exact member
  · exact fun member => ⟨_, member, rfl⟩

/-- The last action is performed on the grouping that the earlier ones leave. -/
theorem ofActions_append_singleton (decoder : Decoder) (actions : List Action) (action : Action) :
    ofActions decoder (actions ++ [action]) =
      (ofActions decoder actions).perform decoder action := by
  simp [ofActions]

/-- Renewals leave no mark on the links. -/
theorem links_ofActions (decoder : Decoder) (actions : List Action) :
    (ofActions decoder actions).links = Links.ofPaths decoder (added actions) := by
  induction actions using List.reverseRecOn with
  | nil => rfl
  | append_singleton actions action inductionHypothesis =>
      rw [ofActions_append_singleton]
      cases action with
      | add path =>
          have longer : added (actions ++ [.add path]) = added actions ++ [path] := by
            simp [added, Action.path?]
          rw [longer, Links.ofPaths_append_singleton, ← inductionHypothesis]
          rfl
      | renew =>
          have same : added (actions ++ [.renew]) = added actions := by
            simp [added, Action.path?]
          rw [same, ← inductionHypothesis]
          rfl

/-- After a renewal the groups in force are those of the traces added so far. -/
theorem grouped_renew_ofActions (decoder : Decoder) (actions : List Action) :
    (ofActions decoder actions).renew.grouped = Links.ofPaths decoder (added actions) :=
  links_ofActions decoder actions

end Grouping

open Grouping in
/-- The groups in force after a renewal are determined by the set of the traces added before it:
in whatever order traces were added, how often, and with whatever renewals in between, every
address has the same group, and there are as many groups. A trace that has been added before
changes nothing at all. -/
theorem groups_determined_by_traces (decoder : Decoder) :
    (∀ actions others : List Action, (∀ path, .add path ∈ actions ↔ .add path ∈ others) →
      let grouping := (ofActions decoder actions).renew
      let other := (ofActions decoder others).renew
      (∀ address, grouping.groupAt? address = other.groupAt? address) ∧
        grouping.groupCount = other.groupCount) ∧
    ∀ (actions : List Action) (path : List UInt64), .add path ∈ actions →
      (ofActions decoder actions).add decoder path = ofActions decoder actions := by
  constructor
  · intro actions others same grouping other
    have agrees : grouping.grouped.Agrees other.grouped := by
      rw [grouped_renew_ofActions, grouped_renew_ofActions]
      exact Links.agrees_ofPaths fun path => by rw [mem_added, mem_added, same]
    exact ⟨agrees.groupAt?, agrees.length_leaders⟩
  · intro actions path isAdded
    have again : (Links.ofPaths decoder (added actions)).addPath decoder path =
        Links.ofPaths decoder (added actions) :=
      Links.addPath_ofPaths_of_mem (mem_added.mpr isAdded)
    rw [← links_ofActions] at again
    rw [add, again]

/-- A loop that is left in two ways is divided alike whichever way was seen first. -/
theorem loop_exits_exchanged :
    let decoder : Decoder := { decode := fun _ => none }
    let first := Grouping.ofActions decoder [.add [1, 2, 3, 2, 4], .renew, .add [1, 2, 3, 5]]
    let second := Grouping.ofActions decoder
      [.add [1, 2, 3, 5], .add [1, 2, 3, 2, 4], .renew, .add [1, 2, 3, 5]]
    first.renew.groupAt? 2 = some [2] ∧ second.renew.groupAt? 2 = some [2] ∧
      first.renew.groupCount = second.renew.groupCount ∧
      first.add decoder [1, 2, 3, 5] = first := by
  intro decoder first second
  obtain ⟨determined, again⟩ := groups_determined_by_traces decoder
  have same := determined [.add [1, 2, 3, 2, 4], .renew, .add [1, 2, 3, 5]]
    [.add [1, 2, 3, 5], .add [1, 2, 3, 2, 4], .renew, .add [1, 2, 3, 5]] (by simp)
  have divided : first.renew.groupAt? 2 = some [2] := by decide +kernel
  exact ⟨divided, (same.1 2).symm.trans divided, same.2, again _ [1, 2, 3, 5] (by simp)⟩

end VmRecovery.Trace

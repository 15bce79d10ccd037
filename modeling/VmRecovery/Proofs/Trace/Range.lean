import VmRecovery.Proofs.Trace.Coverage

/-!
# Ranges identify occurrences

Groups change while traces are added: they are split where a second way shows up and grow where
a trace goes on. The groups that one leader has at two moments are still comparable, because the
links between the members of the one are among the links that the other was taken from. A range
therefore stands for one list of addresses over all moments (`addresses_eq_of_range?_eq`).
-/

namespace VmRecovery.Trace

open Native

/-- The beginning of a path without repetitions that ends where the path ends. -/
theorem eq_of_isPrefix_of_getLast?_eq {path whole : List UInt64} (begins : path <+: whole)
    (distinct : whole.Nodup) (sameEnd : path.getLast? = whole.getLast?) : path = whole := by
  obtain ⟨rest, rfl⟩ := begins
  cases atEnd : rest.getLast? with
  | none => simp [List.getLast?_eq_none_iff.mp atEnd]
  | some last =>
      have late : last ∈ rest := List.mem_of_getLast? atEnd
      have early : last ∈ path := by
        rw [List.getLast?_append, atEnd] at sameEnd
        exact List.mem_of_getLast? sameEnd
      exact absurd late (List.disjoint_of_nodup_append distinct early)

/-- Equal ranges have equal ends. -/
theorem Occurrence.ends_eq_of_range?_eq {occurrence other : Occurrence}
    (same : occurrence.range? = other.range?) :
    occurrence.addresses.head? = other.addresses.head? ∧
      occurrence.addresses.getLast? = other.addresses.getLast? := by
  simp only [Occurrence.addresses, List.head?_map, List.getLast?_map]
  unfold Occurrence.range? at same
  cases first : occurrence.steps with
  | nil =>
      cases otherFirst : other.steps with
      | nil => simp
      | cons step steps => simp [first, otherFirst, List.getLast?_cons] at same
  | cons step steps =>
      cases otherFirst : other.steps with
      | nil => simp [first, otherFirst, List.getLast?_cons] at same
      | cons otherStep otherSteps =>
          simpa [first, otherFirst, List.getLast?_cons] using same

namespace Links

variable {links later : Links} {leader : UInt64}

/-- The groups that a leader has at two moments are comparable. -/
theorem IsGroup.comparable {members laterMembers : List UInt64}
    (group : links.IsGroup leader members) (laterGroup : later.IsGroup leader laterMembers)
    (grown : links.edges ⊆ later.edges) :
    members <+: laterMembers ∨ laterMembers <+: members := by
  obtain ⟨rest, rfl⟩ := List.head?_eq_some_iff.mp group.starts
  obtain ⟨laterRest, rfl⟩ := List.head?_eq_some_iff.mp laterGroup.starts
  have linked : (leader :: rest).IsChain fun address next => (address, next) ∈ later.edges :=
    group.joined.imp fun _ _ joined => grown joined.edge
  simpa only [List.cons_prefix_cons, true_and] using
    comparable_of_isChain linked laterGroup.joined

/-- Beginnings of the groups that a leader has at two moments are the same if they have the same
end. -/
theorem IsGroup.eq_of_isPrefix {members laterMembers path laterPath : List UInt64}
    (group : links.IsGroup leader members) (laterGroup : later.IsGroup leader laterMembers)
    (grown : links.edges ⊆ later.edges) (begins : path <+: members)
    (laterBegins : laterPath <+: laterMembers) (sameEnd : path.getLast? = laterPath.getLast?) :
    path = laterPath := by
  have distinct : path.Nodup := group.distinct.sublist begins.sublist
  have laterDistinct : laterPath.Nodup := laterGroup.distinct.sublist laterBegins.sublist
  have comparable : path <+: laterPath ∨ laterPath <+: path := by
    rcases group.comparable laterGroup grown with within | through
    · exact List.prefix_or_prefix_of_prefix (begins.trans within) laterBegins
    · exact List.prefix_or_prefix_of_prefix begins (laterBegins.trans through)
  rcases comparable with shorter | longer
  · exact eq_of_isPrefix_of_getLast?_eq shorter laterDistinct sameEnd
  · exact (eq_of_isPrefix_of_getLast?_eq longer distinct sameEnd.symm).symm

end Links

/-- What a walker hands out at a moment is the beginning of a group at that moment. -/
theorem Walker.exists_isGroup_of_current {walker : Walker} {grouping : Grouping} {leader : UInt64}
    (starts : (walker.current grouping).addresses.head? = some leader) :
    ∃ members, grouping.grouped.IsGroup leader members ∧
      (walker.current grouping).addresses <+: members := by
  rw [Occurrence.addresses, List.head?_map] at starts
  obtain ⟨members, found, begins⟩ := Walker.exists_groupAt?_of_current starts
  exact ⟨members, Links.isGroup_of_groupAt? found, begins⟩

/-- Occurrences that are handed out at two moments, by any walkers, have the same addresses if
they have the same range. -/
theorem addresses_eq_of_range?_eq {decoder : Decoder} {earlier further : List (List UInt64)}
    {walker laterWalker : Walker}
    (same : (walker.current (.ofRounds decoder earlier)).range? =
      (laterWalker.current (.ofRounds decoder (earlier ++ further))).range?) :
    (walker.current (.ofRounds decoder earlier)).addresses =
      (laterWalker.current (.ofRounds decoder (earlier ++ further))).addresses := by
  obtain ⟨sameStart, sameEnd⟩ := Occurrence.ends_eq_of_range?_eq same
  cases start : (walker.current (.ofRounds decoder earlier)).addresses.head? with
  | none =>
      rw [start] at sameStart
      rw [List.head?_eq_none_iff.mp start, List.head?_eq_none_iff.mp sameStart.symm]
  | some leader =>
      obtain ⟨members, group, begins⟩ := Walker.exists_isGroup_of_current start
      obtain ⟨laterMembers, laterGroup, laterBegins⟩ :=
        Walker.exists_isGroup_of_current (sameStart.symm.trans start)
      rw [Grouping.ofRounds_eq] at group laterGroup
      exact group.eq_of_isPrefix laterGroup (Links.edges_subset_ofPaths_append earlier further)
        begins laterBegins sameEnd

end VmRecovery.Trace

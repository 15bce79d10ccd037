import VmRecovery.Proofs.Trace.Group
import VmRecovery.Trace.Walker

/-!
# A walk covers its trace

A walker is on track when the steps it has left were all observed and the next one leads a
group. Looking at an occurrence and moving past it keeps a walker on track, because the trace
can leave a group only at its end. A walk that starts on track therefore divides its trace into
whole groups, of which only the last can be cut short by the end of the trace.
-/

namespace VmRecovery.Trace

open Native

namespace Walker

/-! The steps that agree with a group. -/

theorem agreeing_isPrefix (steps : List Step) (members : List UInt64) :
    agreeing steps members <+: steps := by
  induction steps generalizing members with
  | nil => simp [agreeing]
  | cons step steps inductionHypothesis =>
      cases members with
      | nil => simp [agreeing]
      | cons member members =>
          unfold agreeing
          split
          · exact List.prefix_cons_inj step |>.mpr (inductionHypothesis members)
          · exact List.nil_prefix

theorem map_agreeing_isPrefix (steps : List Step) (members : List UInt64) :
    (agreeing steps members).map Step.address <+: members := by
  induction steps generalizing members with
  | nil => simp [agreeing]
  | cons step steps inductionHypothesis =>
      cases members with
      | nil => simp [agreeing]
      | cons member members =>
          unfold agreeing
          split
          · rename_i same
            rw [List.map_cons, same]
            exact List.prefix_cons_inj member |>.mpr (inductionHypothesis members)
          · exact List.nil_prefix

/-- A group that the trace runs through agrees as a whole. -/
theorem map_agreeing_of_isPrefix {steps : List Step} {members : List UInt64}
    (through : members <+: steps.map Step.address) :
    (agreeing steps members).map Step.address = members := by
  induction members generalizing steps with
  | nil => cases steps <;> rfl
  | cons member members inductionHypothesis =>
      cases steps with
      | nil => simp at through
      | cons step steps =>
          obtain ⟨same, through⟩ := List.cons_prefix_cons.mp through
          rw [agreeing, if_pos same.symm, List.map_cons, inductionHypothesis through, same]

/-- A trace that ends within a group agrees as a whole. -/
theorem agreeing_of_isPrefix {steps : List Step} {members : List UInt64}
    (within : steps.map Step.address <+: members) : agreeing steps members = steps := by
  induction steps generalizing members with
  | nil => rfl
  | cons step steps inductionHypothesis =>
      cases members with
      | nil => simp at within
      | cons member members =>
          obtain ⟨same, within⟩ := List.cons_prefix_cons.mp within
          rw [agreeing, if_pos same, inductionHypothesis within]

/-! Looking at an occurrence and moving past it. -/

/-- The walker behind the occurrence at the cursor. -/
def past (walker : Walker) (grouping : Grouping) : Walker :=
  (walker.look grouping).2.advance

theorem current_isPrefix (walker : Walker) (grouping : Grouping) :
    (walker.current grouping).steps <+: walker.remaining := by
  unfold current
  split
  · exact List.nil_prefix
  · split
    · exact List.nil_prefix
    · exact agreeing_isPrefix walker.remaining _

/-- What was left is the occurrence followed by what is left behind it. -/
theorem steps_append_remaining_past (walker : Walker) (grouping : Grouping) :
    (walker.current grouping).steps ++ (walker.past grouping).remaining = walker.remaining := by
  obtain ⟨rest, split⟩ := walker.current_isPrefix grouping
  rw [← split]
  simp [past, look, advance, Occurrence.length, ← split]

/-- Whatever a walker hands out is the beginning of a group in force. -/
theorem exists_groupAt?_of_current {walker : Walker} {grouping : Grouping} {leader : UInt64}
    (starts : (walker.current grouping).start? = some leader) :
    ∃ members, grouping.groupAt? leader = some members ∧
      (walker.current grouping).addresses <+: members := by
  unfold current at starts ⊢
  split at starts
  · cases starts
  · rename_i first isFirst
    split at starts
    · cases starts
    · rename_i members found
      obtain ⟨rest, remains⟩ := List.head?_eq_some_iff.mp isFirst
      have same : leader = first.address := by
        rw [remains] at starts
        cases members with
        | nil => simp [Occurrence.start?, agreeing] at starts
        | cons member members =>
            simp only [Occurrence.start?, agreeing] at starts
            split at starts
            · simpa using starts.symm
            · cases starts
      subst same
      exact ⟨members, found, map_agreeing_isPrefix walker.remaining members⟩

/-- All steps that are left were observed, and the next one leads a group. -/
structure OnTrack (grouping : Grouping) (walker : Walker) : Prop where
  known : ∀ step ∈ walker.remaining, step.address ∈ grouping.grouped.addresses
  linked : (walker.remaining.map Step.address).IsChain
    fun address next => (address, next) ∈ grouping.grouped.edges
  leads : ∀ step ∈ walker.remaining.head?, grouping.grouped.isLeader step.address = true

end Walker

/-- Of an observed path and a joined one with the same start, one continues the other. -/
theorem Links.comparable_of_isChain {links : Links} {first : UInt64} {path members : List UInt64}
    (linked : (first :: path).IsChain fun address next => (address, next) ∈ links.edges)
    (joined : (first :: members).IsChain links.Joined) :
    path <+: members ∨ members <+: path := by
  induction path generalizing first members with
  | nil => exact .inl List.nil_prefix
  | cons next path inductionHypothesis =>
      cases members with
      | nil => exact .inr List.nil_prefix
      | cons member members =>
          rw [List.isChain_cons_cons] at linked joined
          obtain rfl : next = member := joined.1.next_eq linked.1
          rcases inductionHypothesis linked.2 joined.2 with within | through
          · exact .inl (List.cons_prefix_cons.mpr ⟨rfl, within⟩)
          · exact .inr (List.cons_prefix_cons.mpr ⟨rfl, through⟩)

namespace Walker.OnTrack

variable {grouping : Grouping} {walker : Walker}

/-- The occurrence at the cursor is the whole group there, or all that is left of the trace. -/
theorem current_spec (onTrack : walker.OnTrack grouping) {first : Step}
    (isFirst : walker.remaining.head? = some first) :
    ∃ members, grouping.groupAt? first.address = some members ∧
      grouping.grouped.IsGroup first.address members ∧
      (((walker.current grouping).addresses = members ∧
          members <+: walker.remaining.map Step.address) ∨
        (walker.current grouping).steps = walker.remaining) := by
  obtain ⟨rest, remains⟩ := List.head?_eq_some_iff.mp isFirst
  have found : grouping.groupAt? first.address = some (grouping.grouped.chain first.address) :=
    Links.groupAt?_eq_some_iff.mpr
      ⟨onTrack.known first (by simp [remains]), onTrack.leads first isFirst, rfl⟩
  have group := Links.isGroup_of_groupAt? found
  refine ⟨_, found, group, ?_⟩
  obtain ⟨members, chain⟩ := List.head?_eq_some_iff.mp group.starts
  have joined := group.joined
  have linked := onTrack.linked
  have handedOut : walker.current grouping =
      { steps := agreeing walker.remaining (grouping.grouped.chain first.address) } := by
    simp only [current, isFirst, found]
  rw [handedOut]
  rw [chain] at joined ⊢
  rw [remains, List.map_cons] at linked ⊢
  rcases Links.comparable_of_isChain linked joined with within | through
  · exact .inr (agreeing_of_isPrefix (List.cons_prefix_cons.mpr ⟨rfl, within⟩))
  · have runsThrough : first.address :: members <+: (first :: rest).map Step.address :=
      List.cons_prefix_cons.mpr ⟨rfl, through⟩
    exact .inl ⟨map_agreeing_of_isPrefix runsThrough, runsThrough⟩

theorem current_ne_nil (onTrack : walker.OnTrack grouping) (unfinished : walker.atEnd = false) :
    (walker.current grouping).steps ≠ [] := by
  have remaining : walker.remaining ≠ [] := by simpa [atEnd] using unfinished
  obtain ⟨first, isFirst⟩ := Option.isSome_iff_exists.mp (List.isSome_head?.mpr remaining)
  obtain ⟨members, -, group, ⟨whole, -⟩ | rest⟩ := onTrack.current_spec isFirst
  · intro empty
    exact group.ne_nil (by simpa [Occurrence.addresses, empty] using whole.symm)
  · exact rest ▸ remaining

theorem start?_current (onTrack : walker.OnTrack grouping) {first : Step}
    (isFirst : walker.remaining.head? = some first) :
    (walker.current grouping).start? = some first.address := by
  obtain ⟨rest, remains⟩ := List.head?_eq_some_iff.mp isFirst
  obtain ⟨step, steps, same⟩ :=
    List.exists_cons_of_ne_nil (onTrack.current_ne_nil (by simp [atEnd, remains]))
  have split := walker.steps_append_remaining_past grouping
  rw [same, remains, List.cons_append] at split
  rw [Occurrence.start?, same, (List.cons.inj split).1]
  rfl

/-- A walker stays on track: what follows a whole group leads the next one. -/
theorem past (onTrack : walker.OnTrack grouping) : (walker.past grouping).OnTrack grouping := by
  have split := walker.steps_append_remaining_past grouping
  refine ⟨fun step member => onTrack.known step ?_, ?_, fun next isNext => ?_⟩
  · rw [← split]
    exact List.mem_append_right _ member
  · have linked := onTrack.linked
    rw [← split, List.map_append] at linked
    exact linked.right_of_append
  · obtain ⟨rest, remains⟩ := List.head?_eq_some_iff.mp isNext
    have remaining : walker.remaining ≠ [] := by
      rw [← split, remains]
      simp
    obtain ⟨first, isFirst⟩ := Option.isSome_iff_exists.mp (List.isSome_head?.mpr remaining)
    obtain ⟨members, -, group, ⟨whole, -⟩ | all⟩ := onTrack.current_spec isFirst
    · obtain ⟨last, isLast⟩ :=
        Option.isSome_iff_exists.mp (List.getLast?_isSome.mpr group.ne_nil)
      refine group.isLeader_of_edge isLast ?_
      have linked := onTrack.linked
      rw [← split, List.map_append] at linked
      change ((walker.current grouping).addresses ++ _).IsChain _ at linked
      rw [whole, List.isChain_append] at linked
      exact linked.2.2 last isLast next.address (by simp [remains])
    · rw [all, remains] at split
      simp at split

end Walker.OnTrack

/-- A walk of an observed trace starts on track. -/
theorem Walker.onTrack_ofSteps (decoder : Decoder) {paths : List (List UInt64)} {steps : List Step}
    (observed : steps.map Step.address ∈ paths) :
    (Walker.ofSteps steps).OnTrack (.ofRounds decoder paths) := by
  rw [Grouping.ofRounds_eq]
  refine ⟨fun step member => ?_, ?_, fun first isFirst => ?_⟩
  · exact Links.mem_addresses_ofPaths.mpr ⟨_, observed, List.mem_map_of_mem member⟩
  · rw [isChain_iff_neighbours]
    exact fun edge shown => Links.mem_edges_ofPaths.mpr ⟨_, observed, shown⟩
  · have started : first.address ∈ (Links.ofPaths decoder paths).starts :=
      Links.mem_starts_ofPaths.mpr ⟨_, observed, by
        change steps.head? = some first at isFirst
        simp [isFirst]⟩
    simp [Links.isLeader, started]

/-- The occurrences into which a grouping divides a trace: together they are the trace, and each
is the whole group that starts where it starts, except that the last one can be the beginning
of a group. -/
structure Divides (grouping : Grouping) (steps : List Step) (occurrences : List Occurrence) :
    Prop where
  complete : occurrences.flatMap Occurrence.steps = steps
  nonempty : ∀ occurrence ∈ occurrences, occurrence.steps ≠ []
  started : ∀ occurrence ∈ occurrences, ∃ leader members,
    occurrence.start? = some leader ∧ grouping.groupAt? leader = some members ∧
      occurrence.addresses <+: members
  whole : ∀ occurrence ∈ occurrences.dropLast, ∃ leader,
    occurrence.start? = some leader ∧ grouping.groupAt? leader = some occurrence.addresses

/-- An occurrence in front of a divided rest; it has to be whole unless nothing is left. -/
theorem Divides.cons {grouping : Grouping} {rest : List Step} {occurrences : List Occurrence}
    {occurrence : Occurrence} {leader : UInt64} {members : List UInt64}
    (behind : Divides grouping rest occurrences) (starts : occurrence.start? = some leader)
    (found : grouping.groupAt? leader = some members) (within : occurrence.addresses <+: members)
    (whole : rest ≠ [] → occurrence.addresses = members) :
    Divides grouping (occurrence.steps ++ rest) (occurrence :: occurrences) where
  complete := by rw [List.flatMap_cons, behind.complete]
  nonempty := by
    refine List.forall_mem_cons.mpr ⟨fun empty => ?_, behind.nonempty⟩
    simp [Occurrence.start?, empty] at starts
  started := List.forall_mem_cons.mpr ⟨⟨leader, members, starts, found, within⟩, behind.started⟩
  whole := by
    cases occurrences with
    | nil => simp
    | cons following others =>
        have left : rest ≠ [] := by
          rw [← behind.complete, List.flatMap_cons]
          exact List.append_ne_nil_of_left_ne_nil (behind.nonempty following (by simp)) _
        rw [List.dropLast_cons_cons]
        exact List.forall_mem_cons.mpr
          ⟨⟨leader, starts, (whole left).symm ▸ found⟩, behind.whole⟩

/-- The walk of a walker on track ends at the end of the trace. -/
theorem Walker.OnTrack.occurrences {grouping : Grouping} {walker : Walker}
    (onTrack : walker.OnTrack grouping) :
    Divides grouping walker.remaining (walker.occurrences grouping).1 ∧
      (walker.occurrences grouping).2.atEnd = true := by
  induction walker using Walker.occurrences.induct grouping with
  | case1 walker finished =>
      rw [Walker.occurrences, if_pos finished]
      exact ⟨⟨(List.isEmpty_iff.mp finished).symm, by simp, by simp, by simp⟩, finished⟩
  | case2 walker unfinished empty =>
      have handedOut := onTrack.current_ne_nil (by simpa using unfinished)
      exact absurd (List.isEmpty_iff.mp empty) handedOut
  | case3 walker unfinished nonempty rest final behind inductionHypothesis =>
      have further := inductionHypothesis onTrack.past
      rw [behind] at further
      obtain ⟨(divides : Divides grouping (walker.past grouping).remaining rest), finished⟩ :=
        further
      rw [Walker.occurrences, if_neg unfinished, if_neg nonempty, behind]
      refine ⟨?_, finished⟩
      have remaining : walker.remaining ≠ [] := by simpa [atEnd] using unfinished
      obtain ⟨first, isFirst⟩ := Option.isSome_iff_exists.mp (List.isSome_head?.mpr remaining)
      have split := walker.steps_append_remaining_past grouping
      have starts := onTrack.start?_current isFirst
      obtain ⟨members, found, within⟩ := exists_groupAt?_of_current starts
      rw [← split]
      refine divides.cons starts found within fun left => ?_
      obtain ⟨members', found', -, ⟨whole, -⟩ | all⟩ := onTrack.current_spec isFirst
      · exact whole.trans (Option.some.inj (found'.symm.trans found))
      · exact absurd (by simpa [all] using split) left

end VmRecovery.Trace

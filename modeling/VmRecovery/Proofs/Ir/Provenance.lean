import Mathlib
import VmRecovery.Ir.Origin

/-!
# Provenance is exact

A value derives from a register if a path of definitions leads back to it. The search finds these
registers and no others, each once, whatever the fragment (`origins_exact`): definitions may be
cyclic, and indices may denote nothing. What carries the proof is an invariant of the search, by
which whatever lies behind a visited waypoint is visited or still pending (`Searching`).
-/

namespace VmRecovery.Ir

namespace Fragment

variable {fragment : Fragment} {value input last : ValueId} {op : Op} {ops : List Op}
  {reading : Option UInt64} {start waypoint next : Waypoint} {visited pending rest : List Waypoint}
  {found : List Origin} {origin : Origin}

/-! What a value derives from. -/

/-- A value leads back to an input of the operation that defines it, from a load to its pointer
only. -/
def Leads (fragment : Fragment) (value : ValueId) (op : Op) (input : ValueId) : Prop :=
  fragment.definingOp? value = some op ∧
    if op.code = .load then op.inputs.head? = some input else input ∈ op.inputs

/-- A path of definitions from a value back to another one, with the operations that it
crosses. -/
inductive Path (fragment : Fragment) : ValueId → List Op → ValueId → Prop where
  | refl (value : ValueId) : Path fragment value [] value
  | step {value input last : ValueId} {op : Op} {ops : List Op}
      (leads : fragment.Leads value op input) (further : Path fragment input ops last) :
      Path fragment value (op :: ops) last

/-- The last load on a path. -/
def lastLoad? (ops : List Op) : Option Op :=
  (ops.filter fun op => op.code = .load).getLast?

/-- A value derives from an origin: a path of definitions ends at a value without a definition
that lives in the register, or in a slot of the native stack, which counts as memory behind the
stack pointer. If the path crosses loads, the last one tells where the register was read
through. -/
def Derives (fragment : Fragment) (value : ValueId) (origin : Origin) : Prop :=
  ∃ ops last location, fragment.Path value ops last ∧ fragment.definingOp? last = none ∧
    (fragment.value? last).map Value.location = some location ∧
    (location = .register origin.name ∨
      (∃ offset, location = .stack offset) ∧ origin.name = "ESP") ∧
    match lastLoad? ops with
    | some load => origin.viaMemory = true ∧ origin.address = some load.address
    | none =>
        origin.address = none ∧ (origin.viaMemory = true ↔ ∃ offset, location = .stack offset)

/-! Waypoints along a path. -/

/-- Waypoints that lie behind another one. -/
def Reaches (fragment : Fragment) : Waypoint → Waypoint → Prop :=
  Relation.ReflTransGen fun waypoint next => next ∈ fragment.before waypoint

/-- The innermost load behind an operation. -/
def readingBehind (reading : Option UInt64) (op : Op) : Option UInt64 :=
  if op.code = .load then some op.address else reading

/-- Behind a waypoint lie the values that its definition leads to, with the innermost load noted. -/
theorem mem_before :
    next ∈ fragment.before (value, reading) ↔
      ∃ op, fragment.Leads value op next.1 ∧ next.2 = readingBehind reading op := by
  obtain ⟨input, reading'⟩ := next
  simp only [before, Leads, readingBehind]
  cases defined : fragment.definingOp? value with
  | none => simp
  | some op =>
      simp only [Option.some.injEq, and_assoc, exists_eq_left']
      by_cases isLoad : op.code = .load
      · simp [isLoad, eq_comm]
      · simp [isLoad, eq_comm]

/-- A path is followed by the search, with the last load on it. -/
theorem Path.reaches (path : fragment.Path value ops last) (reading : Option UInt64) :
    fragment.Reaches (value, reading) (last, ops.foldl readingBehind reading) := by
  induction path generalizing reading with
  | refl value => exact .refl
  | step leads further inductionHypothesis =>
      exact .head (mem_before.mpr ⟨_, leads, rfl⟩) (inductionHypothesis _)

/-- What the search reaches lies on a path. -/
theorem Reaches.path (reaches : fragment.Reaches start waypoint) :
    ∃ ops, fragment.Path start.1 ops waypoint.1 ∧
      waypoint.2 = ops.foldl readingBehind start.2 := by
  induction reaches using Relation.ReflTransGen.head_induction_on with
  | refl => exact ⟨[], .refl _, rfl⟩
  | head earlier _ inductionHypothesis =>
      obtain ⟨op, leads, same⟩ := mem_before.mp earlier
      obtain ⟨ops, path, isLast⟩ := inductionHypothesis
      refine ⟨op :: ops, .step leads path, ?_⟩
      rw [isLast, same, List.foldl_cons]

/-- Behind a path that starts without a load, the innermost load is the last one on it. -/
theorem foldl_readingBehind (ops : List Op) :
    ops.foldl readingBehind none = (lastLoad? ops).map Op.address := by
  induction ops using List.reverseRecOn with
  | nil => rfl
  | append_singleton ops op inductionHypothesis =>
      rw [List.foldl_append, inductionHypothesis]
      by_cases isLoad : op.code = .load
      · simp [lastLoad?, readingBehind, isLoad]
      · simp [lastLoad?, readingBehind, isLoad]

/-- What defines a value is an operation of the fragment. -/
theorem mem_ops_of_definingOp? (defined : fragment.definingOp? value = some op) :
    op ∈ fragment.ops := by
  obtain ⟨_, -, isOp⟩ := Option.bind_eq_some_iff.mp defined
  obtain ⟨_, -, isOp⟩ := Option.bind_eq_some_iff.mp isOp
  exact Array.mem_of_getElem? isOp

/-- The innermost load behind a waypoint is one of the fragment. -/
theorem reading_mem (leads : next ∈ fragment.before waypoint)
    (known : waypoint.2 ∈ fragment.readings) : next.2 ∈ fragment.readings := by
  obtain ⟨op, ⟨defined, -⟩, same⟩ := mem_before.mp leads
  rw [same, readingBehind]
  split
  · rename_i isLoad
    have member : op ∈ fragment.loads := by
      simp only [loads, opsOf, List.mem_filter, beq_iff_eq]
      exact ⟨Array.mem_toList_iff.mpr (mem_ops_of_definingOp? defined), isLoad⟩
    exact List.mem_cons_of_mem _ (List.mem_map.mpr ⟨op, member, rfl⟩)
  · exact known

/-- Whatever is reached notes a load of the fragment, or none, if the start does. -/
theorem Reaches.reading_mem (reaches : fragment.Reaches start waypoint)
    (known : start.2 ∈ fragment.readings) : waypoint.2 ∈ fragment.readings := by
  induction reaches with
  | refl => exact known
  | tail _ leads inductionHypothesis => exact Fragment.reading_mem leads inductionHypothesis

/-- A value that has a definition belongs to the fragment. -/
theorem lt_size_of_defined (defined : fragment.definingOp? value = some op) :
    value < fragment.values.size := by
  obtain ⟨found, isValue, -⟩ := Option.bind_eq_some_iff.mp defined
  exact (Array.getElem?_eq_some_iff.mp isValue).1

/-- The origin at a waypoint is told by where its value lives. -/
theorem originAt?_eq_some_iff :
    fragment.originAt? (value, reading) = some origin ↔
      fragment.definingOp? value = none ∧ ∃ location,
        (fragment.value? value).map Value.location = some location ∧
        (location = .register origin.name ∨
          (∃ offset, location = .stack offset) ∧ origin.name = "ESP") ∧
        origin.address = reading ∧
        (origin.viaMemory = true ↔ reading.isSome = true ∨ ∃ offset, location = .stack offset) := by
  obtain ⟨name, viaMemory, address⟩ := origin
  rw [originAt?]
  cases fragment.definingOp? value with
  | some op => simp
  | none =>
      cases (fragment.value? value).map Value.location with
      | none => simp
      | some location =>
          cases location with
          | register register =>
              constructor
              · rintro ⟨⟩
                simp
              · rintro ⟨-, _, ⟨⟩, named | ⟨⟨_, ⟨⟩⟩, -⟩, rfl, via⟩
                obtain rfl : register = name := Location.register.inj named
                have same : viaMemory = address.isSome := by
                  rw [Bool.eq_iff_iff, via]
                  simp
                rw [same]
          | stack offset =>
              constructor
              · rintro ⟨⟩
                simp
              · rintro ⟨-, _, ⟨⟩, ⟨⟨⟩⟩ | ⟨-, isStack⟩, rfl, via⟩
                obtain rfl : name = "ESP" := isStack
                obtain rfl : viaMemory = true := via.mpr (.inr ⟨offset, rfl⟩)
                rfl
          | constant value => simp
          | temporary => simp

/-- A value derives from what the search comes to. -/
theorem derives_iff :
    fragment.Derives value origin ↔
      ∃ waypoint, fragment.Reaches (value, none) waypoint ∧
        fragment.originAt? waypoint = some origin := by
  constructor
  · rintro ⟨ops, last, location, path, undefined, lives, named, read⟩
    have reaches := path.reaches none
    rw [foldl_readingBehind] at reaches
    refine ⟨_, reaches, originAt?_eq_some_iff.mpr ⟨undefined, location, lives, named, ?_⟩⟩
    cases isLast : lastLoad? ops with
    | none =>
        rw [isLast] at read
        simpa using read
    | some load =>
        rw [isLast] at read
        simp [read]
  · rintro ⟨⟨last, reading⟩, reaches, isOrigin⟩
    obtain ⟨undefined, location, lives, named, address, via⟩ := originAt?_eq_some_iff.mp isOrigin
    obtain ⟨ops, path, isLast⟩ := reaches.path
    rw [foldl_readingBehind] at isLast
    obtain rfl : reading = _ := isLast
    refine ⟨ops, last, location, path, undefined, lives, named, ?_⟩
    cases isLast : lastLoad? ops with
    | none =>
        rw [isLast] at address via
        exact ⟨address, by simpa using via⟩
    | some load =>
        rw [isLast] at address via
        exact ⟨via.mpr (.inl rfl), address⟩

/-! The search. -/

/-- A waypoint that has not been visited is entered, and what lies behind it is searched first. -/
theorem search_of_entered (enters : fragment.Contains waypoint ∧ waypoint ∉ visited) :
    fragment.search visited (waypoint :: rest) found =
      fragment.search (waypoint :: visited) (fragment.before waypoint ++ rest)
        (remember found (fragment.originAt? waypoint)) := by
  rw [search, if_pos enters]

/-- A waypoint that has been visited, or that the fragment does not have, is skipped. -/
theorem search_of_refused (refused : ¬ (fragment.Contains waypoint ∧ waypoint ∉ visited)) :
    fragment.search visited (waypoint :: rest) found = fragment.search visited rest found := by
  rw [search, if_neg refused]

/-- No origin is noted twice. -/
theorem nodup_remember (distinct : found.Nodup) (origin? : Option Origin) :
    (remember found origin?).Nodup := by
  cases origin? with
  | none => exact distinct
  | some origin =>
      rw [remember]
      split
      · exact distinct
      · rename_i new
        refine distinct.append (List.nodup_singleton origin) ?_
        rintro other known isNew
        obtain rfl := List.mem_singleton.mp isNew
        exact new known

/-- The origins noted are the earlier ones and the new one. -/
theorem mem_remember {origin? : Option Origin} :
    origin ∈ remember found origin? ↔ origin ∈ found ∨ origin? = some origin := by
  cases origin? with
  | none => simp [remember]
  | some other =>
      rw [remember]
      by_cases known : other ∈ found
      · rw [if_pos known]
        constructor
        · exact .inl
        · rintro (member | same)
          · exact member
          · exact Option.some.inj same ▸ known
      · simp [known, eq_comm]

/-- What the search keeps while it goes back from a waypoint. -/
structure Searching (fragment : Fragment) (start : Waypoint) (visited pending : List Waypoint)
    (found : List Origin) : Prop where
  /-- The search stays behind its start. -/
  reached : ∀ waypoint ∈ pending, fragment.Reaches start waypoint
  /-- What lies behind a visited waypoint is visited, unless it is pending. -/
  closed : ∀ waypoint ∈ visited, ∀ next ∈ fragment.before waypoint,
    fragment.Contains next → next ∈ visited ∨ next ∈ pending
  entered : fragment.Contains start → start ∈ visited ∨ start ∈ pending
  /-- The origins at visited waypoints have been found. -/
  complete : ∀ waypoint ∈ visited, ∀ origin, fragment.originAt? waypoint = some origin →
    origin ∈ found
  sound : ∀ origin ∈ found, ∃ waypoint, fragment.Reaches start waypoint ∧
    fragment.originAt? waypoint = some origin
  distinct : found.Nodup

namespace Searching

/-- At first nothing is visited, and the start is pending. -/
theorem initial (fragment : Fragment) (start : Waypoint) :
    fragment.Searching start [] [start] [] where
  reached := by
    intro waypoint member
    obtain rfl := List.mem_singleton.mp member
    exact .refl
  closed := by simp
  entered := by simp
  complete := by simp
  sound := by simp
  distinct := List.nodup_nil

/-- A waypoint that is not entered is left behind. -/
theorem skip (searching : fragment.Searching start visited (waypoint :: rest) found)
    (refused : ¬ (fragment.Contains waypoint ∧ waypoint ∉ visited)) :
    fragment.Searching start visited rest found := by
  have settled : ∀ next, fragment.Contains next →
      next ∈ visited ∨ next ∈ waypoint :: rest → next ∈ visited ∨ next ∈ rest := by
    rintro next contained (known | member)
    · exact .inl known
    · rcases List.mem_cons.mp member with rfl | later
      · exact .inl (by simpa [contained] using refused)
      · exact .inr later
  exact
    { reached := fun other member => searching.reached other (List.mem_cons_of_mem _ member)
      closed := fun other known next leads contained =>
        settled next contained (searching.closed other known next leads contained)
      entered := fun contained => settled start contained (searching.entered contained)
      complete := searching.complete
      sound := searching.sound
      distinct := searching.distinct }

/-- A waypoint that is entered is exchanged for those right behind it. -/
theorem visit (searching : fragment.Searching start visited (waypoint :: rest) found) :
    fragment.Searching start (waypoint :: visited) (fragment.before waypoint ++ rest)
      (remember found (fragment.originAt? waypoint)) := by
  have here := searching.reached waypoint List.mem_cons_self
  have settled : ∀ next, next ∈ visited ∨ next ∈ waypoint :: rest →
      next ∈ waypoint :: visited ∨ next ∈ fragment.before waypoint ++ rest := by
    rintro next (known | member)
    · exact .inl (List.mem_cons_of_mem _ known)
    · rcases List.mem_cons.mp member with rfl | later
      · exact .inl List.mem_cons_self
      · exact .inr (List.mem_append_right _ later)
  constructor
  · intro next member
    rcases List.mem_append.mp member with leads | later
    · exact here.tail leads
    · exact searching.reached next (List.mem_cons_of_mem _ later)
  · intro other known next leads contained
    rcases List.mem_cons.mp known with rfl | earlier
    · exact .inr (List.mem_append_left _ leads)
    · exact settled next (searching.closed other earlier next leads contained)
  · exact fun contained => settled start (searching.entered contained)
  · intro other known origin isOrigin
    rw [mem_remember]
    rcases List.mem_cons.mp known with rfl | earlier
    · exact .inr isOrigin
    · exact .inl (searching.complete other earlier origin isOrigin)
  · intro origin member
    rcases mem_remember.mp member with known | isOrigin
    · exact searching.sound origin known
    · exact ⟨waypoint, here, isOrigin⟩
  · exact nodup_remember searching.distinct _

/-- The search ends where nothing is pending. -/
theorem search (searching : fragment.Searching start visited pending found) :
    ∃ visited', fragment.Searching start visited' [] (fragment.search visited pending found) := by
  induction visited, pending, found using Fragment.search.induct fragment with
  | case1 visited found =>
      rw [Fragment.search]
      exact ⟨visited, searching⟩
  | case2 visited found waypoint rest enters inductionHypothesis =>
      rw [search_of_entered enters]
      exact inductionHypothesis searching.visit
  | case3 visited found waypoint rest refused inductionHypothesis =>
      rw [search_of_refused refused]
      exact inductionHypothesis (searching.skip refused)

/-- At the end all that belongs to the fragment has been visited. -/
theorem visited_of_reaches (searching : fragment.Searching start visited [] found)
    (known : start.2 ∈ fragment.readings) (reaches : fragment.Reaches start waypoint)
    (inside : waypoint.1 < fragment.values.size) : waypoint ∈ visited := by
  induction reaches with
  | refl => exact (searching.entered ⟨inside, known⟩).resolve_right List.not_mem_nil
  | tail earlier leads inductionHypothesis =>
      obtain ⟨op, ⟨defined, -⟩, -⟩ := mem_before.mp leads
      have visited := inductionHypothesis (lt_size_of_defined defined)
      have contained := And.intro inside (Reaches.reading_mem (earlier.tail leads) known)
      exact (searching.closed _ visited _ leads contained).resolve_right List.not_mem_nil

end Searching

/-! The search as a loop. -/

/-- What a loop over the pending waypoints holds before a round. -/
structure Round where
  visited : List Waypoint := []
  pending : List Waypoint
  found : List Origin := []

/-- A round takes the first pending waypoint. All that it looks at is whether the waypoint has
been visited before. -/
def Round.next? (fragment : Fragment) (round : Round) : Option Round :=
  match round.pending with
  | [] => none
  | waypoint :: rest =>
      if round.visited.contains waypoint then some { round with pending := rest }
      else
        some
          { visited := waypoint :: round.visited
            pending := fragment.before waypoint ++ rest
            found := remember round.found (fragment.originAt? waypoint) }

/-- Any number of rounds. -/
def Rounds (fragment : Fragment) : Round → Round → Prop :=
  Relation.ReflTransGen fun round next => round.next? fragment = some next

/-- A round skips a waypoint that has been visited. -/
theorem next?_of_visited (known : waypoint ∈ visited) :
    Round.next? fragment ⟨visited, waypoint :: rest, found⟩ = some ⟨visited, rest, found⟩ :=
  if_pos (List.contains_iff_mem.mpr known)

/-- A round enters a new waypoint and puts what lies behind it first. -/
theorem next?_of_new (new : waypoint ∉ visited) :
    Round.next? fragment ⟨visited, waypoint :: rest, found⟩ =
      some ⟨waypoint :: visited, fragment.before waypoint ++ rest,
        remember found (fragment.originAt? waypoint)⟩ :=
  if_neg fun known => new (List.contains_iff_mem.mp known)

/-- Nothing lies behind an index that denotes no value, and nothing is found there. -/
theorem blank_of_size_le (outside : fragment.values.size ≤ value) :
    fragment.before (value, reading) = [] ∧ fragment.originAt? (value, reading) = none := by
  have missing : fragment.value? value = none := Array.getElem?_eq_none outside
  simp [before, originAt?, definingOp?, missing]

/-- The loop comes to an end with what the search finds, although it keeps visiting indices that
denote nothing. Apart from these it has visited the same waypoints. -/
theorem rounds_search {seen : List Waypoint}
    (known : ∀ waypoint ∈ pending, waypoint.2 ∈ fragment.readings)
    (agree : ∀ waypoint, fragment.Contains waypoint → (waypoint ∈ seen ↔ waypoint ∈ visited)) :
    ∃ seen', fragment.Rounds ⟨seen, pending, found⟩
      ⟨seen', [], fragment.search visited pending found⟩ := by
  induction visited, pending, found using Fragment.search.induct fragment generalizing seen with
  | case1 visited found =>
      rw [Fragment.search]
      exact ⟨seen, .refl⟩
  | case2 visited found waypoint rest enters inductionHypothesis =>
      rw [search_of_entered enters]
      have new : waypoint ∉ seen := fun member =>
        enters.2 ((agree waypoint enters.1).mp member)
      have later : ∀ next ∈ fragment.before waypoint ++ rest, next.2 ∈ fragment.readings := by
        intro next member
        rcases List.mem_append.mp member with leads | remains
        · exact reading_mem leads enters.1.2
        · exact known next (List.mem_cons_of_mem _ remains)
      obtain ⟨seen', rounds⟩ := @inductionHypothesis (waypoint :: seen) later
        fun other contained => by rw [List.mem_cons, List.mem_cons, agree other contained]
      exact ⟨seen', .head (next?_of_new new) rounds⟩
  | case3 visited found waypoint rest refused inductionHypothesis =>
      rw [search_of_refused refused]
      have later : ∀ next ∈ rest, next.2 ∈ fragment.readings :=
        fun next member => known next (List.mem_cons_of_mem _ member)
      by_cases member : waypoint ∈ seen
      · obtain ⟨seen', rounds⟩ := inductionHypothesis later agree
        exact ⟨seen', .head (next?_of_visited member) rounds⟩
      · -- The loop marks even what denotes nothing, and goes on with the same waypoints.
        have foreign : ¬ fragment.Contains waypoint := fun contained =>
          refused ⟨contained, fun old => member ((agree waypoint contained).mpr old)⟩
        have outside : fragment.values.size ≤ waypoint.1 := by
          by_contra inside
          exact foreign ⟨Nat.not_le.mp inside, known waypoint List.mem_cons_self⟩
        obtain ⟨nothing, none⟩ := @blank_of_size_le fragment waypoint.1 waypoint.2 outside
        have enters := @next?_of_new fragment waypoint seen rest found member
        rw [nothing, none] at enters
        obtain ⟨seen', rounds⟩ := @inductionHypothesis (waypoint :: seen) later
          fun other contained => by
            have different : other ≠ waypoint := fun same => foreign (same ▸ contained)
            rw [List.mem_cons, or_iff_right different, agree other contained]
        exact ⟨seen', .head enters rounds⟩

/-- The loop that goes back from a value ends, whatever the fragment, with the origins of the
value: each of them once, and exactly those that the value derives from. -/
theorem origins_exact (fragment : Fragment) (value : ValueId) :
    (∃ visited, fragment.Rounds { pending := [(value, none)] }
      { visited, pending := [], found := fragment.origins value }) ∧
      (fragment.origins value).Nodup ∧
      ∀ origin, origin ∈ fragment.origins value ↔ fragment.Derives value origin := by
  obtain ⟨visited, ended⟩ := (Searching.initial fragment (value, none)).search
  refine ⟨?_, ended.distinct, fun origin => ?_⟩
  · apply rounds_search
    · simp [readings]
    · exact fun _ _ => Iff.rfl
  · rw [derives_iff]
    constructor
    · exact ended.sound origin
    · rintro ⟨⟨last, reading⟩, reaches, isOrigin⟩
      obtain ⟨-, location, lives, -⟩ := originAt?_eq_some_iff.mp isOrigin
      obtain ⟨found, isValue, -⟩ := Option.map_eq_some_iff.mp lives
      have inside : last < fragment.values.size := (Array.getElem?_eq_some_iff.mp isValue).1
      have known : none ∈ fragment.readings := List.mem_cons_self
      exact ended.complete _ (ended.visited_of_reaches known reaches inside) origin isOrigin

/-- A value that is added to itself, and to what a load reads. -/
example :
    Fragment.origins
      { entry := 0x10
        values :=
          #[⟨.temporary, 4, some 0⟩, ⟨.register "ESI", 4, none⟩, ⟨.temporary, 4, some 1⟩]
        ops := #[⟨0x10, .intAdd, [0, 2], some 0⟩, ⟨0x14, .load, [1], some 2⟩] } 0 =
      [⟨"ESI", true, some 0x14⟩] := by
  cbv

end Fragment

end VmRecovery.Ir

import Mathlib.Data.List.Forall2

/-!
# First and last entries of a list

Where a table is filled entry by entry, the last entry for a key counts; where numbers are handed
out on demand, the first mention does. Both are read off the list of entries here.
-/

namespace VmRecovery

variable {α β : Type}

/-! Last entries. -/

/-- The last entry with a property is the one behind which no other has it. -/
theorem getLast?_filter_eq_some_iff {property : α → Bool} {entries : List α} {entry : α} :
    (entries.filter property).getLast? = some entry ↔
      property entry = true ∧ ∃ earlier later, entries = earlier ++ entry :: later ∧
        ∀ other ∈ later, property other = false := by
  rw [List.getLast?_filter, List.find?_eq_some_iff_append]
  refine and_congr_right fun _ => ?_
  constructor
  · rintro ⟨later, earlier, reversed, others⟩
    refine ⟨earlier.reverse, later.reverse, ?_, ?_⟩
    · simpa using congrArg List.reverse reversed
    · intro other member
      simpa using others other (List.mem_reverse.mp member)
  · rintro ⟨earlier, later, rfl, others⟩
    refine ⟨later.reverse, earlier.reverse, by simp, ?_⟩
    intro other member
    simpa using others other (List.mem_reverse.mp member)

/-! First mentions. -/

/-- A longer list has the earlier entries under their numbers, and the new one under the next. -/
theorem getElem?_concat_eq_some_iff {entries : List α} {entry other : α} {number : Nat} :
    (entries ++ [entry])[number]? = some other ↔
      entries[number]? = some other ∨ number = entries.length ∧ other = entry := by
  rw [List.getElem?_append]
  split
  · rename_i bound
    simp [Nat.ne_of_lt bound]
  · rename_i beyond
    rw [List.getElem?_eq_none (Nat.not_lt.mp beyond), List.getElem?_singleton]
    have reached : number - entries.length = 0 ↔ number = entries.length := by omega
    simp [reached, eq_comm]

section FirstMentions

variable [BEq α] [LawfulBEq α] {listed : List α} {entry : α}

/-- What stands further left already may be left out. -/
theorem eraseDups_append_of_subset {more : List α} (known : more ⊆ listed) (rest : List α) :
    (listed ++ more ++ rest).eraseDups = (listed ++ rest).eraseDups := by
  have nothing : more.removeAll listed = [] := by
    rw [List.removeAll, List.filter_eq_nil_iff]
    intro entry member
    simpa using known member
  rw [List.append_assoc, List.eraseDups_append, List.eraseDups_append]
  congr 1
  rw [List.removeAll, List.filter_append, ← List.removeAll, nothing]
  rfl

/-- A repetition at the end leaves no mark once repetitions are dropped. -/
theorem eraseDups_concat_of_mem (known : entry ∈ listed) :
    (listed ++ [entry]).eraseDups = listed.eraseDups := by
  simpa using eraseDups_append_of_subset (List.cons_subset.mpr ⟨known, List.nil_subset _⟩) []

/-- A new entry at the end is kept there when repetitions are dropped. -/
theorem eraseDups_concat_of_not_mem (new : entry ∉ listed) :
    (listed ++ [entry]).eraseDups = listed.eraseDups ++ [entry] := by
  simp [List.eraseDups_append, List.removeAll, new, List.eraseDups_cons]

/-- What is listed already keeps its place when more is listed. -/
theorem getElem?_eraseDups_append {number : Nat}
    (found : listed.eraseDups[number]? = some entry) (more : List α) :
    (listed ++ more).eraseDups[number]? = some entry := by
  obtain ⟨bound, -⟩ := List.getElem?_eq_some_iff.mp found
  rwa [List.eraseDups_append, List.getElem?_append_left bound]

/-- Where nothing is repeated nothing is dropped. -/
theorem eraseDups_of_nodup (distinct : listed.Nodup) : listed.eraseDups = listed := by
  induction listed with
  | nil => rfl
  | cons entry rest inductionHypothesis =>
      obtain ⟨new, distinct⟩ := List.nodup_cons.mp distinct
      have kept : rest.filter (fun other => !other == entry) = rest := by
        rw [List.filter_eq_self]
        rintro other member
        have different : other ≠ entry := fun same => new (same ▸ member)
        simpa using different
      rw [List.eraseDups_cons, kept, inductionHypothesis distinct]

end FirstMentions

/-! Looking up each entry of a list. -/

/-- Looking up all keys succeeds exactly with what each of them has. -/
theorem mapM_eq_some_iff {find : α → Option β} {keys : List α} {values : List β} :
    keys.mapM find = some values ↔
      List.Forall₂ (fun key value => find key = some value) keys values := by
  induction keys generalizing values with
  | nil => simp [eq_comm]
  | cons key keys inductionHypothesis =>
      simp only [List.mapM_cons, Option.bind_eq_bind, Option.bind_eq_some_iff, Option.pure_def,
        Option.some.injEq, inductionHypothesis, List.forall₂_cons_left_iff]
      constructor
      · rintro ⟨value, found, others, foundOthers, rfl⟩
        exact ⟨value, others, found, foundOthers, rfl⟩
      · rintro ⟨value, others, found, foundOthers, rfl⟩
        exact ⟨value, found, others, foundOthers, rfl⟩

/-- Looking up keys depends on what these keys have only. -/
theorem mapM_congr {find other : α → Option β} {keys : List α}
    (same : ∀ key ∈ keys, find key = other key) : keys.mapM find = keys.mapM other := by
  induction keys with
  | nil => rfl
  | cons key keys inductionHypothesis =>
      obtain ⟨first, rest⟩ := List.forall_mem_cons.mp same
      rw [List.mapM_cons, List.mapM_cons, first, inductionHypothesis rest]

/-- Every entry can be looked up if each of them can. -/
theorem exists_mapM_eq_some_iff {find : α → Option β} {keys : List α} :
    (∃ values, keys.mapM find = some values) ↔ ∀ key ∈ keys, ∃ value, find key = some value := by
  simp only [mapM_eq_some_iff]
  induction keys with
  | nil => simp
  | cons key keys inductionHypothesis =>
      simp only [List.forall₂_cons_left_iff, List.forall_mem_cons, ← inductionHypothesis]
      constructor
      · rintro ⟨_, value, others, found, foundOthers, rfl⟩
        exact ⟨⟨value, found⟩, others, foundOthers⟩
      · rintro ⟨⟨value, found⟩, others, foundOthers⟩
        exact ⟨_, value, others, found, foundOthers, rfl⟩

/-- Numbered entries, looked up by their numbers. -/
theorem mapM_range_eq_some_iff {find : α → Option β} {key : Nat → α} {count : Nat}
    {values : List β} :
    ((List.range count).map key).mapM find = some values ↔
      values.length = count ∧
        ∀ place value, values[place]? = some value → find (key place) = some value := by
  rw [mapM_eq_some_iff, List.forall₂_iff_get]
  simp only [List.length_map, List.length_range, List.get_eq_getElem, List.getElem_map,
    List.getElem_range]
  constructor
  · rintro ⟨length, found⟩
    refine ⟨length.symm, fun place value isValue => ?_⟩
    obtain ⟨bound, rfl⟩ := List.getElem?_eq_some_iff.mp isValue
    exact found place (length ▸ bound) bound
  · rintro ⟨length, found⟩
    exact ⟨length.symm, fun place _ bound =>
      found place values[place] (List.getElem?_eq_getElem bound)⟩

end VmRecovery

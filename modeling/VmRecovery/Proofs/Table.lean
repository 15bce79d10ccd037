import Mathlib.Data.List.Basic
import Mathlib.Data.List.Induction
import Mathlib.Data.List.Perm.Subperm
import VmRecovery.Table

/-!
# What a scanned table holds

A table holds for a key what the last item with an entry for it has noted
(`getElem?_tableOf_eq_some_iff`). The scan is followed from its end: the last item decides about
the key of its entry, and what precedes decides about all others (`isLast_concat`,
`getElem?_noteEntry`).
-/

namespace VmRecovery

variable {α β κ : Type}

/-- The last of some items with an entry for a key has a value for it. -/
def IsLast (note? : α → Option (κ × β)) (items : List α) (key : κ) (value : β) : Prop :=
  ∃ earlier item later, items = earlier ++ item :: later ∧ note? item = some (key, value) ∧
    ∀ other ∈ later, ∀ another, note? other ≠ some (key, another)

variable {note? : α → Option (κ × β)} {items : List α} {item : α} {key : κ} {value : β}

theorem not_isLast_nil : ¬IsLast note? [] key value := by
  simp [IsLast]

/-- An item at the end decides about the key of its entry. -/
theorem isLast_concat :
    IsLast note? (items ++ [item]) key value ↔
      note? item = some (key, value) ∨
        (∀ another, note? item ≠ some (key, another)) ∧ IsLast note? items key value := by
  constructor
  · rintro ⟨earlier, last, later, split, found, others⟩
    rcases List.eq_nil_or_concat later with rfl | ⟨middle, final, rfl⟩
    · obtain ⟨-, same⟩ := List.append_inj' split rfl
      obtain rfl : item = last := by simpa using same
      exact .inl found
    · have regrouped : items ++ [item] = (earlier ++ last :: middle) ++ [final] := by
        simpa using split
      obtain ⟨rfl, same⟩ := List.append_inj' regrouped rfl
      obtain rfl : item = final := by simpa using same
      refine .inr ⟨others item (by simp), earlier, last, middle, rfl, found, ?_⟩
      intro other member
      exact others other (by simp [member])
  · rintro (found | ⟨silent, earlier, last, later, rfl, found, others⟩)
    · exact ⟨items, item, [], rfl, found, by simp⟩
    · refine ⟨earlier, last, later ++ [item], by simp, found, ?_⟩
      intro other member
      rcases List.mem_append.mp member with before | isFinal
      · exact others other before
      · obtain rfl := List.mem_singleton.mp isFinal
        exact silent

/-- A key has a last entry if it has any. -/
theorem exists_isLast_iff :
    (∃ value, IsLast note? items key value) ↔
      ∃ item ∈ items, ∃ value, note? item = some (key, value) := by
  induction items using List.reverseRecOn with
  | nil => simp [not_isLast_nil]
  | append_singleton items item inductionHypothesis =>
      simp only [isLast_concat, exists_or, exists_and_left, inductionHypothesis,
        List.mem_append, List.mem_singleton, or_and_right, exists_eq_left]
      by_cases found : ∃ value, note? item = some (key, value)
      · simp [found]
      · simp [not_exists.mp found]

variable [Ord κ] [Std.TransOrd κ] [Std.LawfulEqOrd κ]

/-- An item changes the entry for its own key, and no other. -/
theorem getElem?_noteEntry {table : Std.TreeMap κ β} :
    (noteEntry note? table item)[key]? = some value ↔
      note? item = some (key, value) ∨
        (∀ another, note? item ≠ some (key, another)) ∧ table[key]? = some value := by
  unfold noteEntry
  split
  · rename_i own noted found
    rw [Std.TreeMap.getElem?_insert, found]
    by_cases same : own = key
    · simp [same]
    · simp [same]
  · rename_i found
    simp [found]

theorem getElem?_tableOf_eq_some_iff :
    (tableOf note? items)[key]? = some value ↔ IsLast note? items key value := by
  unfold tableOf
  induction items using List.reverseRecOn with
  | nil => simp [not_isLast_nil]
  | append_singleton items item inductionHypothesis =>
      rw [List.foldl_concat, getElem?_noteEntry, isLast_concat, inductionHypothesis]

/-- A table has at least as many entries as keys that are known to be in it. -/
theorem length_le_size {table : Std.TreeMap κ β} {keys : List κ} (distinct : keys.Nodup)
    (present : ∀ key ∈ keys, ∃ value, table[key]? = some value) : keys.length ≤ table.size := by
  have listed : keys ⊆ table.keys := by
    intro key member
    rw [Std.TreeMap.mem_keys, Std.TreeMap.mem_iff_isSome_getElem?, Option.isSome_iff_exists]
    exact present key member
  rw [← Std.TreeMap.length_keys]
  exact (distinct.subperm listed).length_le

end VmRecovery

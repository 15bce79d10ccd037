/-!
# What a search has not visited yet

A search that never enters a place twice ends because the number of unvisited places drops
with every place it enters. `unvisited_cons_lt` states that drop.
-/

namespace VmRecovery

/-- How many of the given places, counted with repetitions, have not been visited. -/
def unvisited {α : Type} [DecidableEq α] (places visited : List α) : Nat :=
  (places.filter fun place => place ∉ visited).length

theorem unvisited_cons_lt {α : Type} [DecidableEq α] {places visited : List α} {place : α}
    (known : place ∈ places) (new : place ∉ visited) :
    unvisited places (place :: visited) < unvisited places visited := by
  have split : (places.filter fun other => other ∉ place :: visited) =
      (places.filter fun other => other ∉ visited).filter fun other => other ≠ place := by
    rw [List.filter_filter]
    congr 1
    funext other
    simp
  rw [unvisited, unvisited, split]
  refine List.length_filter_lt_length_iff_exists.mpr ⟨place, ?_, by simp⟩
  simp [known, new]

end VmRecovery

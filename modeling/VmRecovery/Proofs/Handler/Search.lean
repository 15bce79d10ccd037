import Mathlib.Logic.Basic
import VmRecovery.Handler.Arithmetic

/-!
# Two searches side by side

A shape is found step by step: something is looked up, a condition is checked, and the search
goes on or ends. When a handler is changed in a way that should not matter, each step finds the
changed thing, and so does the whole search. Each rule goes one step into a search and into the
same search over the changed handler.
-/

namespace VmRecovery.Handler

variable {α α' β β' : Type} {move : α → α'} {result : β → β'} {next : α → Option β}

/-- A step that finds a changed thing. -/
theorem bind_moved {found : Option α} {found' : Option α'} {next' : α' → Option β'}
    (same : found' = found.map move)
    (rest : ∀ thing ∈ found, next' (move thing) = (next thing).map result) :
    found'.bind next' = (found.bind next).map result := by
  subst same
  cases found with
  | none => rfl
  | some thing => exact rest thing rfl

/-- A step that finds the same thing. -/
theorem bind_kept {found found' : Option α} {next' : α → Option β'} (same : found' = found)
    (rest : ∀ thing ∈ found, next' thing = (next thing).map result) :
    found'.bind next' = (found.bind next).map result :=
  bind_moved (same.trans Option.map_id'.symm) rest

variable {condition condition' : Prop} [Decidable condition] [Decidable condition']

/-- A condition that ends the search. -/
theorem unless_moved {found : Option β} {found' : Option β'} (same : condition' ↔ condition)
    (rest : found' = found.map result) :
    (if condition' then none else found') = (if condition then none else found).map result := by
  rw [apply_ite (Option.map result), ← rest]
  exact if_congr same rfl rfl

/-- A condition on which the search goes on. -/
theorem when_moved {found : Option β} {found' : Option β'} (same : condition' ↔ condition)
    (rest : found' = found.map result) :
    (if condition' then found' else none) = (if condition then found else none).map result := by
  rw [apply_ite (Option.map result), ← rest]
  exact if_congr same rfl rfl

/-- Steps that find a changed thing each. -/
theorem mapM_moved {γ : Type} {places : List γ} {find : γ → Option α} {find' : γ → Option α'}
    (same : ∀ place ∈ places, find' place = (find place).map move) :
    places.mapM find' = (places.mapM find).map (List.map move) := by
  induction places with
  | nil => rfl
  | cons place places inductionHypothesis =>
      rw [List.mapM_cons, List.mapM_cons]
      refine bind_moved (same place List.mem_cons_self) fun thing _ => ?_
      refine bind_moved (inductionHypothesis fun other member => ?_) fun things _ => rfl
      exact same other (List.mem_cons_of_mem place member)

/-! What a mnemonic can decide. -/

namespace Site

variable {mnemonic : Native.Mnemonic} {pattern : UInt8 → Pattern}

theorem doubleShiftOf?_eq_some (names : doubleShiftOf? mnemonic = some pattern) :
    ∃ op, pattern = .doubleShift op := by
  unfold doubleShiftOf? at names
  split at names
  · exact ⟨.shld, (Option.some.inj names).symm⟩
  split at names
  · exact ⟨.shrd, (Option.some.inj names).symm⟩
  · cases names

theorem productOf?_eq_some (names : productOf? mnemonic = some pattern) : pattern = .mul := by
  unfold productOf? at names
  split at names
  · exact (Option.some.inj names).symm
  · cases names

end Site

end VmRecovery.Handler

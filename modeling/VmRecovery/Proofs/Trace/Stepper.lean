import VmRecovery.Trace.Occurrence
import Mathlib.Data.List.Basic

/-!
# Engines that step

An engine is a stepper if it executes one instruction after the other and what it does next
depends on nothing but the snapshot it has come to. The run from where another run stopped is
then the rest of the longer run: nothing is executed twice and nothing is left out
(`Stepper.steps_from`).
-/

namespace VmRecovery.Trace

open Machine

/-- An engine whose runs continue one another. -/
structure Stepper (engine : Snapshot → Nat → Run) : Prop where
  bounded : ∀ snapshot budget, (engine snapshot budget).steps.length ≤ budget
  continues : ∀ snapshot first more,
    (engine snapshot (first + more)).steps =
      (engine snapshot first).steps ++ (engine (engine snapshot first).final more).steps
  /-- A run that stops early stays stopped. -/
  stops : ∀ snapshot first more, (engine snapshot first).steps.length < first →
    (engine (engine snapshot first).final more).steps = []

namespace Stepper

variable {engine : Snapshot → Nat → Run} {snapshot : Snapshot} {count budget : Nat}

/-- A run that another one is at least as long as uses up its budget. -/
theorem length_steps (stepper : Stepper engine)
    (reached : count ≤ (engine snapshot budget).steps.length) :
    (engine snapshot count).steps.length = count := by
  have within : count + (budget - count) = budget := by
    have bounded := stepper.bounded snapshot budget
    omega
  have longer := stepper.continues snapshot count (budget - count)
  rw [within] at longer
  by_contra short
  have early : (engine snapshot count).steps.length < count :=
    Nat.lt_of_le_of_ne (stepper.bounded snapshot count) short
  rw [stepper.stops snapshot count _ early, List.append_nil] at longer
  exact absurd reached (Nat.not_le.mpr (longer ▸ early))

/-- A run from the state after so many steps is the longer run without those steps. -/
theorem steps_from (stepper : Stepper engine)
    (reached : count ≤ (engine snapshot budget).steps.length) (more : Nat) :
    (engine (engine snapshot count).final more).steps =
      (engine snapshot (count + more)).steps.drop count := by
  rw [stepper.continues, List.drop_left' (stepper.length_steps reached)]

/-- An engine that takes single steps for as long as there are any is a stepper. -/
theorem of_step (next? : Snapshot → Option (Step × Snapshot))
    (spent : ∀ snapshot, engine snapshot 0 = { steps := [], final := snapshot })
    (stopped : ∀ snapshot budget, next? snapshot = none →
      engine snapshot budget = { steps := [], final := snapshot })
    (stepped : ∀ snapshot budget step after, next? snapshot = some (step, after) →
      engine snapshot (budget + 1) =
        { steps := step :: (engine after budget).steps, final := (engine after budget).final }) :
    Stepper engine where
  bounded := by
    intro snapshot budget
    induction budget generalizing snapshot with
    | zero => simp [spent]
    | succ budget inductionHypothesis =>
        cases next : next? snapshot with
        | none => simp [stopped _ _ next]
        | some pair => simpa [stepped _ _ _ _ next] using inductionHypothesis pair.2
  continues := by
    intro snapshot first more
    induction first generalizing snapshot with
    | zero => simp [spent]
    | succ first inductionHypothesis =>
        cases next : next? snapshot with
        | none => simp [stopped _ _ next]
        | some pair =>
            rw [Nat.add_right_comm, stepped _ _ _ _ next, stepped _ _ _ _ next,
              inductionHypothesis pair.2, List.cons_append]
  stops := by
    intro snapshot first more early
    induction first generalizing snapshot with
    | zero => exact absurd early (Nat.not_lt_zero _)
    | succ first inductionHypothesis =>
        cases next : next? snapshot with
        | none => rw [stopped _ _ next, stopped _ _ next]
        | some pair =>
            rw [stepped _ _ _ _ next] at early ⊢
            exact inductionHypothesis pair.2 (Nat.lt_of_succ_lt_succ early)

end Stepper

end VmRecovery.Trace

import VmRecovery.Proofs.Trace.Stepper
import VmRecovery.Simulation.Backend

/-!
# The simulated engine steps

A scenario in which no instruction and no run fails has a deterministic engine that executes one
instruction after the other.
-/

namespace VmRecovery.Simulation

open Machine Trace

/-- No effect of an instruction fails. -/
def Effect.IsReliable : Effect → Prop
  | .fail _ => False
  | _ => True

theorem Effect.apply_ne_failed {effect : Effect} (reliable : effect.IsReliable)
    (snapshot : Snapshot) (detail : String) : effect.apply snapshot ≠ .failed detail := by
  cases effect with
  | load register base offset fallback =>
      simp only [Effect.apply]
      split <;> simp
  | fail detail => exact reliable.elim
  | _ => simp [Effect.apply]

theorem Outcome.ofEffects_ne_failed {effects : List Effect}
    (reliable : ∀ effect ∈ effects, effect.IsReliable) (snapshot : Snapshot) (detail : String) :
    Outcome.ofEffects snapshot effects ≠ .failed detail := by
  induction effects generalizing snapshot with
  | nil => simp [Outcome.ofEffects]
  | cons effect rest inductionHypothesis =>
      have first := effect.apply_ne_failed (reliable effect List.mem_cons_self) snapshot detail
      rw [Outcome.ofEffects]
      split
      · refine inductionHypothesis (fun other member => ?_) _
        exact reliable other (List.mem_cons_of_mem _ member)
      · exact first

namespace Scenario

variable {scenario : Scenario}

/-- No run and no instruction of a scenario fails. -/
structure IsReliable (scenario : Scenario) : Prop where
  runs : scenario.failing = []
  lines : ∀ line ∈ scenario.code, ∀ effect ∈ line.effects, effect.IsReliable

/-- The engine of a scenario, for as long as it does not fail. -/
def engine (scenario : Scenario) (snapshot : Snapshot) (budget : Nat) : Run :=
  match scenario.execute snapshot budget with
  | .ok run => run
  | .error _ => { steps := [], final := snapshot }

/-- The next step from a snapshot, with the snapshot after it. -/
def step? (scenario : Scenario) (snapshot : Snapshot) : Option (Step × Snapshot) :=
  match scenario.lineAt? snapshot.registers.eip with
  | none => none
  | some line =>
      let next := line.next.getD snapshot.registers.eip
      let moved := { snapshot with registers := { snapshot.registers with eip := next } }
      match Outcome.ofEffects moved line.effects with
      | .next after =>
          some ({ address := snapshot.instructionPointer, registers := snapshot.registers }, after)
      | _ => none

theorem execute_succ (reliable : scenario.IsReliable) (snapshot : Snapshot) (budget : Nat) :
    scenario.execute snapshot (budget + 1) =
      match scenario.step? snapshot with
      | none => .ok { steps := [], final := snapshot }
      | some (step, after) =>
          (scenario.execute after budget).map fun run =>
            { run with steps := step :: run.steps } := by
  rw [execute, step?]
  cases found : scenario.lineAt? snapshot.registers.eip with
  | none => rfl
  | some line =>
      have known : line ∈ scenario.code :=
        List.mem_reverse.mp (List.mem_of_find?_eq_some found)
      dsimp only
      split
      · rename_i halted
        rw [halted]
      · rename_i failed
        exact absurd failed (Outcome.ofEffects_ne_failed (reliable.lines line known) _ _)
      · rename_i after next
        rw [next]
        dsimp only
        cases scenario.execute after budget <;> rfl

theorem execute_eq (reliable : scenario.IsReliable) (snapshot : Snapshot) (budget : Nat) :
    scenario.execute snapshot budget = .ok (scenario.engine snapshot budget) := by
  induction budget generalizing snapshot with
  | zero => rfl
  | succ budget inductionHypothesis =>
      rw [engine, execute_succ reliable]
      cases scenario.step? snapshot with
      | none => rfl
      | some pair =>
          dsimp only
          rw [inductionHypothesis]
          rfl

/-- A run of reliable collaborators is one of the engine. -/
theorem run_eq (reliable : scenario.IsReliable) (snapshot : Snapshot) (budget : Nat)
    (host : Host) : (scenario.backend.run snapshot budget host).1 =
      .ok (scenario.engine snapshot budget) := by
  simp [backend, run, reliable.runs, execute_eq reliable]

theorem stepper_engine (reliable : scenario.IsReliable) : Stepper scenario.engine := by
  have once : ∀ snapshot budget, scenario.engine snapshot (budget + 1) =
      match scenario.step? snapshot with
      | none => { steps := [], final := snapshot }
      | some (step, after) =>
          { steps := step :: (scenario.engine after budget).steps
            final := (scenario.engine after budget).final } := by
    intro snapshot budget
    rw [engine, execute_succ reliable]
    cases scenario.step? snapshot with
    | none => rfl
    | some pair => simp only [execute_eq reliable]; rfl
  refine .of_step scenario.step? (fun _ => rfl) (fun snapshot budget stopped => ?_)
    fun snapshot budget step after stepped => ?_
  · cases budget with
    | zero => rfl
    | succ budget => rw [once, stopped]
  · rw [once, stepped]

end Scenario

end VmRecovery.Simulation

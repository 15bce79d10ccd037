import VmRecovery.Flow.Run

/-!
# How an action ends

An action of a recovery, or of its collaborators, ends with an answer or with a fault, and what
it has changed stays changed in both cases. `Ends` states what holds of both ends of an action
from one state. The rules below take an action apart step by step, so that later proofs about
an action never unfold the monad.
-/

namespace VmRecovery

open VmRecovery.Flow

variable {τ σ α β : Type}

/-- From a state an action ends as described: `done` holds of its answer and the state after it,
or `failed` of its fault and the state after it. -/
def Ends (action : ExceptT Fault (StateM τ) α) (state : τ) (done : α → τ → Prop)
    (failed : Fault → τ → Prop) : Prop :=
  match action.run.run state with
  | (.ok answer, after) => done answer after
  | (.error fault, after) => failed fault after

namespace Ends

variable {state : τ} {done : α → τ → Prop} {failed : Fault → τ → Prop}

/-- What holds of both ends holds of the answer, if there was one. -/
theorem of_ok {action : ExceptT Fault (StateM τ) α} {answer : α} {after : τ}
    (ends : Ends action state done failed) (ran : action.run.run state = (.ok answer, after)) :
    done answer after := by
  rwa [Ends, ran] at ends

/-- What holds of both ends holds of the fault, if there was one. -/
theorem of_error {action : ExceptT Fault (StateM τ) α} {fault : Fault} {after : τ}
    (ends : Ends action state done failed) (ran : action.run.run state = (.error fault, after)) :
    failed fault after := by
  rwa [Ends, ran] at ends

/-- What is described is the outcome of the action. -/
theorem ran {action : ExceptT Fault (StateM τ) α} (ends : Ends action state done failed) :
    Ends action state
      (fun answer after => action.run.run state = (.ok answer, after) ∧ done answer after)
      fun fault after => action.run.run state = (.error fault, after) ∧ failed fault after := by
  unfold Ends at ends ⊢
  split at ends
  · rename_i answer after ran
    rw [ran]
    exact ⟨rfl, ends⟩
  · rename_i fault after ran
    rw [ran]
    exact ⟨rfl, ends⟩

/-- What holds of every state and answer holds however an action ends. -/
theorem of_forall {action : ExceptT Fault (StateM τ) α}
    (onDone : ∀ answer after, done answer after) (onFailed : ∀ fault after, failed fault after) :
    Ends action state done failed := by
  unfold Ends
  split
  · exact onDone _ _
  · exact onFailed _ _

/-- Nothing is said of how an action ends. -/
theorem anyhow (action : ExceptT Fault (StateM τ) α) (state : τ) :
    Ends action state (fun _ _ => True) fun _ _ => True :=
  .of_forall (fun _ _ => trivial) fun _ _ => trivial

/-- What holds of both ends may be weakened at either. -/
theorem imp {done' : α → τ → Prop} {failed' : Fault → τ → Prop}
    {action : ExceptT Fault (StateM τ) α} (ends : Ends action state done failed)
    (onDone : ∀ answer after, done answer after → done' answer after)
    (onFailed : ∀ fault after, failed fault after → failed' fault after) :
    Ends action state done' failed' := by
  unfold Ends at ends ⊢
  split at ends
  · exact onDone _ _ ends
  · exact onFailed _ _ ends

end Ends

variable {state : τ}

/-- An answer ends where it began. -/
@[simp] theorem ends_pure {done : α → τ → Prop} {failed : Fault → τ → Prop} (answer : α) :
    Ends (pure answer) state done failed ↔ done answer state :=
  Iff.rfl

/-- A fault ends where it began. -/
@[simp] theorem ends_throw {done : α → τ → Prop} {failed : Fault → τ → Prop} (fault : Fault) :
    Ends (throw fault) state done failed ↔ failed fault state :=
  Iff.rfl

/-- A look at the state answers with it and leaves it alone. -/
@[simp] theorem ends_get {done : τ → τ → Prop} {failed : Fault → τ → Prop} :
    Ends get state done failed ↔ done state state :=
  Iff.rfl

/-- A change of the state ends with the changed one. -/
@[simp] theorem ends_modify {done : Unit → τ → Prop} {failed : Fault → τ → Prop} (change : τ → τ) :
    Ends (modify change) state done failed ↔ done () (change state) :=
  Iff.rfl

/-- A change with an answer ends with both. -/
@[simp] theorem ends_modifyGet {done : α → τ → Prop} {failed : Fault → τ → Prop}
    (change : τ → α × τ) :
    Ends (modifyGet change) state done failed ↔ done (change state).1 (change state).2 :=
  Iff.rfl

/-- What holds of both ends holds of the state after the action. -/
theorem ends_both {action : ExceptT Fault (StateM τ) α} {holds : τ → Prop} :
    Ends action state (fun _ => holds) (fun _ => holds) ↔ holds (action.run.run state).2 := by
  unfold Ends
  generalize action.run.run state = outcome
  rcases outcome with ⟨answer | fault, after⟩ <;> rfl

/-- The second of two actions is run from where the first one ends. -/
theorem run_run_bind (action : ExceptT Fault (StateM τ) α) (next : α → ExceptT Fault (StateM τ) β)
    (state : τ) : (action >>= next).run.run state =
      match action.run.run state with
      | (.ok answer, after) => (next answer).run.run after
      | (.error fault, after) => (.error fault, after) := by
  rw [ExceptT.run_bind, StateT.run_bind]
  generalize action.run.run state = outcome
  rcases outcome with ⟨answer | fault, after⟩ <;> rfl

/-- Two actions end as the second one does from where the first one ends, or with the fault of the
first. -/
@[simp] theorem ends_bind {done : β → τ → Prop} {failed : Fault → τ → Prop}
    (action : ExceptT Fault (StateM τ) α) (next : α → ExceptT Fault (StateM τ) β) :
    Ends (action >>= next) state done failed ↔
      Ends action state (fun answer after => Ends (next answer) after done failed) failed := by
  unfold Ends
  rw [run_run_bind]
  generalize action.run.run state = outcome
  rcases outcome with ⟨answer | fault, after⟩ <;> rfl

/-- An action that has been run ends as it did. -/
theorem ends_iff_of_ok {done : α → τ → Prop} {failed : Fault → τ → Prop}
    {action : ExceptT Fault (StateM τ) α} {answer : α} {after : τ}
    (ran : action.run.run state = (.ok answer, after)) :
    Ends action state done failed ↔ done answer after := by
  rw [Ends, ran]

/-- Two actions that end alike have the same outcome. -/
theorem run_eq_of_ends {other : ExceptT Fault (StateM τ) α} {action : ExceptT Fault (StateM τ) α}
    {state' : τ}
    (alike : ∀ done failed, Ends action state done failed ↔ Ends other state' done failed) :
    action.run.run state = other.run.run state' := by
  have ends := (alike (fun answer after => (.ok answer, after) = other.run.run state')
    fun fault after => (.error fault, after) = other.run.run state').mpr (by
      unfold Ends
      split
      · rename_i ran
        exact ran.symm
      · rename_i ran
        exact ran.symm)
  unfold Ends at ends
  split at ends
  · rename_i ran
    exact ran.trans ends
  · rename_i ran
    exact ran.trans ends

/-- An action whose fault is caught ends with its outcome. -/
theorem ends_attempt {done : Except Fault α → τ → Prop} {failed : Fault → τ → Prop}
    (action : ExceptT Fault (StateM τ) α) :
    Ends (ExceptT.lift (ExceptT.run action)) state done failed ↔
      Ends action state (fun answer after => done (.ok answer) after)
        fun fault after => done (.error fault) after := by
  unfold Ends
  rw [ExceptT.run_lift, StateT.run_map]
  generalize action.run.run state = outcome
  rcases outcome with ⟨answer | fault, after⟩ <;> rfl

/-- However an action ends, the state that it leaves is related to the one before it. -/
def Relates (relation : τ → τ → Prop) (action : ExceptT Fault (StateM τ) α) : Prop :=
  ∀ state, Ends action state (fun _ => relation state) fun _ => relation state

/-- A relation between the ends may be weakened. -/
theorem Relates.imp {relation relation' : τ → τ → Prop} {action : ExceptT Fault (StateM τ) α}
    (relates : Relates relation action)
    (weaker : ∀ before after, relation before after → relation' before after) :
    Relates relation' action :=
  fun state => (relates state).imp (fun _ => weaker state) fun _ => weaker state

/-- Two actions in a row relate what their relations compose to, provided that the first action
may be the last one. -/
theorem Relates.bind {first second both : τ → τ → Prop} {action : ExceptT Fault (StateM τ) α}
    {next : α → ExceptT Fault (StateM τ) β}
    (stops : ∀ {before after}, first before after → both before after)
    (trans : ∀ {before middle after}, first before middle → second middle after →
      both before after)
    (relates : Relates first action) (further : ∀ answer, Relates second (next answer)) :
    Relates both (action >>= next) := by
  intro state
  rw [ends_bind]
  refine (relates state).imp (fun answer middle related => ?_) fun _ _ related => stops related
  exact (further answer middle).imp (fun _ _ => trans related) fun _ _ => trans related

namespace Flow.RecoveryM

variable {state : Recovery σ} {done : α → Recovery σ → Prop}
  {failed : Fault → Recovery σ → Prop}

/-- Collaborators change nothing but their own state and the notices. -/
@[simp] theorem ends_inSession (action : SessionM σ α) :
    Ends (inSession action) state done failed ↔
      Ends action state.session (fun answer session => done answer { state with session })
        fun fault session => failed fault { state with session } := by
  have ran : (inSession action).run.run state =
      let outcome := action.run.run state.session
      (outcome.1, { state with session := outcome.2 }) := rfl
  unfold Ends
  rw [ran]
  generalize action.run.run state.session = outcome
  rcases outcome with ⟨answer | fault, session⟩ <;> rfl

end Flow.RecoveryM

end VmRecovery

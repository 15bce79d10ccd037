import VmRecovery.Handler.Reading

/-!
# What patterns stand for

A pattern determines its operation but for one operand, which it takes from an occurrence. The kinds
of operations that come of patterns are gone through once, in `standsFor_of_operation?`; whoever
needs to know what an operation is not, or which pattern it comes of, asks that relation.
-/

namespace VmRecovery.Handler

open Native Trace

variable {pattern : Pattern} {occurrence : Occurrence} {decoder : Decoder}
  {saveArea offset : UInt64} {operation : Operation}

/-- Operations that are performed without an operand of the occurrence. Neither what the entry
routine does nor what lies behind an exit is among them. -/
def IsFixed : Operation → Prop
  | .init _ | .pushReg _ | .pushImm _ | .popReg _ _ | .exitCall _ | .unknown => False
  | _ => True

namespace Pattern

/-- The operations that a pattern stands for. -/
inductive StandsFor : Pattern → Operation → Prop where
  | popReg {size : UInt8} {store : UInt64} {pair : RegisterPair} {offset : UInt64} :
      StandsFor (.popReg size store pair) (.popReg offset pair)
  | pushReg {size : UInt8} {load offset : UInt64} : StandsFor (.pushReg size load) (.pushReg offset)
  | pushImm {size : UInt8} {load store value : UInt64} :
      StandsFor (.pushImm size load store) (.pushImm value)
  | fixed {pattern : Pattern} {operation : Operation} (isFixed : IsFixed operation) :
      StandsFor pattern operation

theorem standsFor_of_operation?
    (performed : pattern.operation? occurrence decoder saveArea = some operation) :
    pattern.StandsFor operation := by
  cases pattern with
  | popReg size store pair =>
      simp only [operation?, Option.bind_eq_bind, Option.bind_eq_some_iff] at performed
      obtain ⟨⟨step, instruction⟩, -, performed⟩ := performed
      split at performed
      · obtain ⟨offset, -, read⟩ := Option.bind_eq_some_iff.mp performed
        cases read
        exact .popReg
      · cases performed
  | pushReg size load =>
      simp only [operation?, Option.bind_eq_bind, Option.bind_eq_some_iff] at performed
      obtain ⟨⟨step, instruction⟩, -, offset, -, read⟩ := performed
      cases read
      exact .pushReg
  | pushImm size load store =>
      simp only [operation?, Option.bind_eq_bind, Option.bind_eq_some_iff] at performed
      obtain ⟨⟨step, instruction⟩, -, register, -, value, -, read⟩ := performed
      cases read
      exact .pushImm
  | binary op size =>
      cases performed
      cases op <;> exact .fixed trivial
  | doubleShift op size =>
      cases performed
      cases op <;> exact .fixed trivial
  | _ =>
      cases performed
      exact .fixed trivial

/-- A pattern never stands for the entry routine, the call behind an exit or an unrecognised
handler. -/
theorem ne_of_operation?
    (performed : pattern.operation? occurrence decoder saveArea = some operation) :
    (∀ saved, operation ≠ .init saved) ∧ (∀ target, operation ≠ .exitCall target) ∧
      operation ≠ .unknown := by
  cases standsFor_of_operation? performed with
  | popReg => simp
  | pushReg => simp
  | pushImm => simp
  | fixed isFixed =>
      refine ⟨?_, ?_, ?_⟩
      · rintro saved rfl
        exact isFixed
      · rintro target rfl
        exact isFixed
      · rintro rfl
        exact isFixed

theorem pair?_of_popReg {pair : RegisterPair}
    (isPop : pattern.operation? occurrence decoder saveArea = some (.popReg offset pair)) :
    pattern.pair? = some pair := by
  cases standsFor_of_operation? isPop with
  | popReg => rfl
  | fixed isFixed => cases isFixed

/-- Only the patterns of a push and of a pop stand for what they do to a virtual register. -/
theorem moves_of_operation?
    (performed : pattern.operation? occurrence decoder saveArea = some operation)
    (moves : operation = .pushReg offset ∨ ∃ pair, operation = .popReg offset pair) :
    (∃ size load, pattern = pushReg size load) ∨
      ∃ size store pair, pattern = popReg size store pair := by
  have stands := standsFor_of_operation? performed
  rcases moves with rfl | ⟨pair, rfl⟩
  · cases stands with
    | pushReg => exact .inl ⟨_, _, rfl⟩
    | fixed isFixed => cases isFixed
  · cases stands with
    | popReg => exact .inr ⟨_, _, _, rfl⟩
    | fixed isFixed => cases isFixed

end Pattern

end VmRecovery.Handler

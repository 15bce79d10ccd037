import Mathlib
import VmRecovery.Entry.Spill
import VmRecovery.Handler.Verdict

/-!
# Handlers for scenarios

A minimal dataflow for each kind of handler that control passes through, and what it is
recognised as wherever it lies. Scenarios that show a property at work are put together from
these.
-/

namespace VmRecovery.Simulation

open Handler Ir Native

variable (address : UInt64)

/-- An entry routine that spills one register to all slots and reserves the save area below. -/
def entryRoutine (delta : UInt64) : Fragment where
  entry := address
  values :=
    #[⟨.register "EAX", 4, none⟩, ⟨.register "ESP", 4, none⟩, ⟨.constant delta, 4, none⟩,
      ⟨.stack (-4), 4, some 0⟩, ⟨.stack (-8), 4, some 1⟩, ⟨.stack (-12), 4, some 2⟩,
      ⟨.stack (-16), 4, some 3⟩, ⟨.stack (-20), 4, some 4⟩, ⟨.stack (-24), 4, some 5⟩,
      ⟨.stack (-28), 4, some 6⟩, ⟨.stack (-32), 4, some 7⟩, ⟨.stack (-36), 4, some 8⟩,
      ⟨.stack (-40), 4, some 9⟩, ⟨.stack (-44), 4, some 10⟩, ⟨.temporary, 4, some 11⟩]
  ops :=
    #[⟨address, .copy, [0], some 3⟩, ⟨address, .copy, [0], some 4⟩, ⟨address, .copy, [0], some 5⟩,
      ⟨address, .copy, [0], some 6⟩, ⟨address, .copy, [0], some 7⟩, ⟨address, .copy, [0], some 8⟩,
      ⟨address, .copy, [0], some 9⟩, ⟨address, .copy, [0], some 10⟩,
      ⟨address, .copy, [0], some 11⟩, ⟨address, .copy, [0], some 12⟩,
      ⟨address, .copy, [0], some 13⟩, ⟨address, .ptrSub, [1, 2], some 14⟩,
      ⟨address, .ret, [14], none⟩]
  returns := [("ESP", 14)]

/-- A pop from the stack at `EBP` into the save area; the bytecode is at `ESI`. -/
def popHandler : Fragment where
  entry := address
  values :=
    #[⟨.register "ESI", 4, none⟩, ⟨.register "EBP", 4, none⟩, ⟨.register "ESP", 4, none⟩,
      ⟨.temporary, 4, some 0⟩, ⟨.temporary, 4, some 1⟩, ⟨.temporary, 4, some 2⟩,
      ⟨.temporary, 4, some 4⟩]
  ops :=
    #[⟨address, .load, [0], some 3⟩, ⟨address, .load, [1], some 4⟩,
      ⟨address, .intAdd, [2, 3], some 5⟩, ⟨address, .store, [5, 4], none⟩,
      ⟨address, .load, [0], some 6⟩]

/-- The pair that the pop reveals. -/
def revealed : RegisterPair :=
  { code := "ESI", stack := "EBP" }

/-- A pop that reveals a pair is recognised unless another one is selected. -/
theorem pattern?_popHandler (decoder : Decoder) {selection : Selection}
    (admitted : selection.admits revealed = true) :
    Site.pattern? decoder { fragment := popHandler address, selection } =
      some (.popReg (decoder.accessSize 1 address) address revealed) := by
  have shape : popRegMatcher.draft { fragment := popHandler address, selection } =
      .ok (.sized 1 address fun size => .popReg size address revealed) := by
    have reveals : Site.revealedPair? { fragment := popHandler address, selection } =
        some (revealed, ⟨address, .store, [5, 4], none⟩, ⟨"EBP", true, some address⟩) := by
      cbv
    simp [popRegMatcher, reveals, admitted]
  have applies : popRegMatcher.apply decoder { fragment := popHandler address, selection } =
      .ok (.popReg (decoder.accessSize 1 address) address revealed) := by
    simp [Matcher.apply, shape, Draft.resolve]
  simp [Site.pattern?, matchers, mainMatchers, transferMatchers, applies, Except.toOption]

/-- A jump to a bytecode address from the stack at `EBP`. -/
def jmpHandler : Fragment where
  entry := address
  values := #[⟨.register "EBP", 4, none⟩, ⟨.temporary, 4, some 0⟩]
  ops := #[⟨address, .load, [0], some 1⟩]

/-- A jump whose target is computed from the bytecode at `ESI` and from `EBX`. -/
def jmpConstHandler : Fragment where
  entry := address
  values :=
    #[⟨.register "ESI", 4, none⟩, ⟨.register "EBX", 4, none⟩, ⟨.temporary, 4, some 0⟩,
      ⟨.temporary, 4, some 1⟩]
  ops :=
    #[⟨address, .load, [0], some 2⟩, ⟨address, .intAdd, [2, 1], some 3⟩,
      ⟨address, .ret, [3], none⟩]
  returns := [("EIP", 3)]

theorem verdict_jmpConstHandler (decoder : Decoder) :
    Site.verdict decoder { fragment := jmpConstHandler address, selection := .none } =
      .handler .jmpConst := by
  cbv

/-- An exit that restores ten registers from consecutive slots of the stack at `EBP`. -/
def exitHandler : Fragment where
  entry := address
  values :=
    #[⟨.register "EBP", 4, none⟩, ⟨.constant 4, 4, none⟩] ++
      ((List.range 10).flatMap fun slot =>
        [⟨.constant (.ofNat slot), 4, none⟩, ⟨.temporary, 4, some (2 * slot)⟩,
          ⟨.temporary, 4, some (2 * slot + 1)⟩]).toArray
  ops :=
    ((List.range 10).flatMap fun slot =>
      [⟨address, .ptrAdd, [0, 3 * slot + 2, 1], some (3 * slot + 3)⟩,
        ⟨address, .load, [3 * slot + 3], some (3 * slot + 4)⟩]).toArray
  returns :=
    (["EAX", "ECX", "EDX", "EBX", "EBP", "ESI", "EDI", "EFLAGS", "R8", "R9"].zipIdx).map
      fun (name, slot) => (name, 3 * slot + 4)

theorem verdict_exitHandler (decoder : Decoder) :
    Site.verdict decoder { fragment := exitHandler address, selection := .none } =
      .handler
        (.exit ["EAX", "ECX", "EDX", "EBX", "EBP", "ESI", "EDI", "EFLAGS", "R8", "R9"]) := by
  cbv

end VmRecovery.Simulation

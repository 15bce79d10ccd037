import VmRecovery.Machine.Snapshot

/-!
# Effects of simulated instructions

A simulated instruction is a list of effects on a snapshot. Effects name registers the way code
does: a name that stands for no register reads as zero and cannot be written. Addresses are
computed in 32 bits and wrap around there.
-/

namespace VmRecovery.Simulation

open Machine

/-- What an instruction does to registers and memory. -/
inductive Effect where
  | set (register : String) (value : UInt64)
  | move (register source : String)
  | add (register : String) (delta : UInt64)
  /-- Loads a dword. Where none has been written the fallback is loaded, and without one the
  execution halts. -/
  | load (register base : String) (offset : UInt32) (fallback : Option UInt32)
  | store (base : String) (offset : UInt32) (register : String)
  | halt
  | fail (detail : String)
  deriving DecidableEq, Repr, Inhabited

/-- How the effects of an instruction end. -/
inductive Outcome where
  | next (snapshot : Snapshot)
  | halted
  | failed (detail : String)
  deriving Inhabited

/-- The value of a named register. -/
def valueOf (snapshot : Snapshot) (register : String) : UInt64 :=
  (snapshot.registers.read register).getD 0

/-- Stores a value in a named register. -/
def assign (snapshot : Snapshot) (register : String) (value : UInt64) : Snapshot :=
  { snapshot with registers := (snapshot.registers.write register value).getD snapshot.registers }

/-- The address at an offset from a named register. -/
def addressAt (snapshot : Snapshot) (base : String) (offset : UInt32) : UInt64 :=
  ((valueOf snapshot base).toUInt32 + offset).toUInt64

/-- Applies one effect. -/
def Effect.apply (snapshot : Snapshot) : Effect → Outcome
  | set register value => .next (assign snapshot register value)
  | move register source => .next (assign snapshot register (valueOf snapshot source))
  | add register delta => .next (assign snapshot register (valueOf snapshot register + delta))
  | load register base offset fallback =>
      match (snapshot.readDword (addressAt snapshot base offset)).or fallback with
      | some value => .next (assign snapshot register value.toUInt64)
      | none => .halted
  | store base offset register =>
      .next
        (snapshot.writeDword (addressAt snapshot base offset) (valueOf snapshot register).toUInt32)
  | halt => .halted
  | fail detail => .failed detail

/-- Applies effects in order up to the first that ends the execution. -/
def Outcome.ofEffects (snapshot : Snapshot) : List Effect → Outcome
  | [] => .next snapshot
  | effect :: rest =>
      match effect.apply snapshot with
      | .next after => ofEffects after rest
      | outcome => outcome

end VmRecovery.Simulation

import VmRecovery.Trace.Grouping
import VmRecovery.Trace.Occurrence

/-!
# Walking along a trace

A walker hands out a trace occurrence by occurrence. The occurrence at the cursor consists of
the steps that agree with the group starting there; a group that the trace leaves early is
handed out as far as it was executed.
-/

namespace VmRecovery.Trace

/-- A place in a trace. -/
structure Walker where
  /-- Number of steps before the current occurrence. -/
  cursor : Nat := 0
  /-- The steps from the current occurrence on. -/
  remaining : List Step := []
  /-- Number of steps of the current occurrence, zero before it is looked at. -/
  pending : Nat := 0
  deriving Repr, Inhabited

namespace Walker

/-- A walker at the start of a trace. -/
def ofSteps (steps : List Step) : Walker :=
  { remaining := steps }

/-- The number of steps of the whole trace. -/
def length (walker : Walker) : Nat :=
  walker.cursor + walker.remaining.length

/-- The steps that agree with the members of a group. -/
def agreeing : List Step → List UInt64 → List Step
  | step :: steps, member :: members =>
      if step.address = member then step :: agreeing steps members else []
  | _, _ => []

/-- The occurrence at the cursor. It is empty at the end of the trace, and where no group
starts. -/
def current (walker : Walker) (grouping : Grouping) : Occurrence :=
  match walker.remaining.head? with
  | none => {}
  | some first =>
      match grouping.groupAt? first.address with
      | none => {}
      | some members => { steps := agreeing walker.remaining members }

/-- Looks at the occurrence at the cursor. -/
def look (walker : Walker) (grouping : Grouping) : Occurrence × Walker :=
  let occurrence := walker.current grouping
  (occurrence, { walker with pending := occurrence.length })

/-- Moves past the occurrence that was looked at last. -/
def advance (walker : Walker) : Walker :=
  { cursor := walker.cursor + walker.pending
    remaining := walker.remaining.drop walker.pending }

/-- Whether the whole trace has been walked. -/
def atEnd (walker : Walker) : Bool :=
  walker.remaining.isEmpty

/-- The number of steps up to the end of the current occurrence. -/
def reached (walker : Walker) : Nat :=
  walker.cursor + walker.pending

/-- The occurrences from the cursor on, up to the end of the trace or the first that is empty,
and the walker there. Every occurrence that is handed out moves the cursor on. -/
def occurrences (walker : Walker) (grouping : Grouping) : List Occurrence × Walker :=
  if walker.atEnd then ([], walker)
  else if (walker.current grouping).isEmpty then ([], (walker.look grouping).2)
  else
    let (rest, final) := (walker.look grouping).2.advance.occurrences grouping
    (walker.current grouping :: rest, final)
  termination_by walker.remaining.length
  decreasing_by
    rename_i unfinished handedOut
    simp only [atEnd, List.isEmpty_iff, ← List.length_eq_zero_iff] at unfinished
    simp only [Occurrence.isEmpty, List.isEmpty_iff, ← List.length_eq_zero_iff] at handedOut
    simp only [look, advance, Occurrence.length, List.length_drop]
    omega

end Walker

end VmRecovery.Trace

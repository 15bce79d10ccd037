import VmRecovery.Ir.Fragment
import VmRecovery.Unvisited

/-!
# Where a value comes from

An origin is a register that a value derives from, directly or as the pointer of a load on the
way. The search follows definitions backwards, depth first and from left to right, and enters
no value twice below the same innermost load; therefore it ends on cyclic definitions too.
-/

namespace VmRecovery.Ir

/-- A register that a value derives from. -/
structure Origin where
  /-- The register. Values from the incoming native stack report the stack pointer. -/
  name : String
  /-- The value was read from memory through the register. -/
  viaMemory : Bool
  /-- Address of the innermost load on the way. -/
  address : Option UInt64
  deriving DecidableEq, Repr, Inhabited

/-- Whether an origin is a register, up to the case of its name, read in the given way. -/
def Origin.matches (origin : Origin) (name : String) (viaMemory : Bool) : Bool :=
  origin.viaMemory == viaMemory && sameName origin.name name

/-- A value on the way back, with the address of the innermost load above it. -/
abbrev Waypoint := ValueId × Option UInt64

namespace Fragment

variable (fragment : Fragment)

/-- The innermost loads that there can be, and the case without any. -/
def readings : List (Option UInt64) :=
  none :: fragment.loads.map fun load => some load.address

/-- A waypoint whose value and load belong to the fragment. -/
def Contains (waypoint : Waypoint) : Prop :=
  waypoint.1 < fragment.values.size ∧ waypoint.2 ∈ fragment.readings

instance (waypoint : Waypoint) : Decidable (fragment.Contains waypoint) :=
  inferInstanceAs (Decidable (_ ∧ _))

/-- All waypoints of a fragment. -/
def waypoints : List Waypoint :=
  (List.range fragment.values.size).flatMap fun value =>
    fragment.readings.map fun reading => (value, reading)

theorem mem_waypoints {waypoint : Waypoint} :
    waypoint ∈ fragment.waypoints ↔ fragment.Contains waypoint := by
  obtain ⟨value, reading⟩ := waypoint
  simp [waypoints, Contains]

/-- The waypoints one definition further back. A load leads to its pointer only. -/
def before : Waypoint → List Waypoint
  | (value, reading) =>
    match fragment.definingOp? value with
    | none => []
    | some op =>
        if op.code = .load then op.inputs.head?.toList.map fun pointer => (pointer, some op.address)
        else op.inputs.map fun input => (input, reading)

/-- The origin at a waypoint that has no definition. -/
def originAt? : Waypoint → Option Origin
  | (id, reading) =>
    match fragment.definingOp? id, (fragment.value? id).map Value.location with
    | none, some (.register name) => some ⟨name, reading.isSome, reading⟩
    | none, some (.stack _) => some ⟨"ESP", true, reading⟩
    | _, _ => none

/-- Adds an origin at the end unless it is there already. -/
def remember (found : List Origin) : Option Origin → List Origin
  | none => found
  | some origin => if origin ∈ found then found else found ++ [origin]

/-- Searches backwards from the waypoints at hand. -/
def search (visited : List Waypoint) (pending : List Waypoint) (found : List Origin) :
    List Origin :=
  match pending with
  | [] => found
  | waypoint :: rest =>
      if fragment.Contains waypoint ∧ waypoint ∉ visited then
        search (waypoint :: visited) (fragment.before waypoint ++ rest)
          (remember found (fragment.originAt? waypoint))
      else
        search visited rest found
termination_by (unvisited fragment.waypoints visited, pending.length)
decreasing_by
  · rename_i entered
    exact Prod.Lex.left _ _
      (unvisited_cons_lt (fragment.mem_waypoints.mpr entered.1) entered.2)
  · exact Prod.Lex.right _ (Nat.lt_succ_self _)

/-- The registers that a value derives from, in the order in which they are reached. -/
def origins (value : ValueId) : List Origin :=
  fragment.search [] [(value, none)] []

end Fragment

end VmRecovery.Ir

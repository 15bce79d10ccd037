import VmRecovery.Trace.Links

/-!
# The grouping in force

Traces are added while a grouping is in use. The grouping stays as it is until it is renewed
from everything that has been added.
-/

namespace VmRecovery.Trace

open Native

/-- The accumulated links and the state of them that the grouping was last taken from. -/
structure Grouping where
  links : Links := {}
  grouped : Links := {}
  deriving Repr, Inhabited

namespace Grouping

/-- Adds a trace without touching the groups in force. -/
def add (grouping : Grouping) (decoder : Decoder) (path : List UInt64) : Grouping :=
  { grouping with links := grouping.links.addPath decoder path }

/-- Renews the groups. -/
def renew (grouping : Grouping) : Grouping :=
  { grouping with grouped := grouping.links }

/-- The members of the group in force that starts at an address. -/
def groupAt? (grouping : Grouping) (address : UInt64) : Option (List UInt64) :=
  grouping.grouped.groupAt? address

/-- The number of groups in force. -/
def groupCount (grouping : Grouping) : Nat :=
  grouping.grouped.leaders.length

/-- The number of addresses observed so far. -/
def addressCount (grouping : Grouping) : Nat :=
  grouping.links.addresses.length

end Grouping

end VmRecovery.Trace

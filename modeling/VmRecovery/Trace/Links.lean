import VmRecovery.Native.Decoder
import VmRecovery.Unvisited

/-!
# Observed control flow

`Links` accumulates which native instructions ran and which ran directly after which, over all
traces of a recovery. It groups the instructions into handlers: a group starts at a leader and
goes on as long as control can only have passed from one instruction to the next. Groups are a
function of the accumulated links alone.
-/

namespace VmRecovery.Trace

open Native

/-- What has been observed; every list is free of repetitions. -/
structure Links where
  addresses : List UInt64 := []
  /-- Where traces started. -/
  starts : List UInt64 := []
  /-- Addresses whose instruction ends a handler. -/
  breaks : List UInt64 := []
  /-- Pairs of addresses that were executed one directly after the other. -/
  edges : List (UInt64 × UInt64) := []
  deriving Repr, Inhabited

/-- The pairs of neighbours in a list. -/
def neighbours (path : List UInt64) : List (UInt64 × UInt64) :=
  path.zip path.tail

namespace Links

/-- Adds an executed address. Its instruction is decoded when the address is new. -/
def addAddress (decoder : Decoder) (links : Links) (address : UInt64) : Links :=
  if address ∈ links.addresses then links
  else
    { links with
      addresses := address :: links.addresses
      breaks := if decoder.endsHandler address then address :: links.breaks else links.breaks }

/-- Adds a pair of addresses executed one after the other. -/
def addEdge (links : Links) (edge : UInt64 × UInt64) : Links :=
  { links with edges := links.edges.insert edge }

/-- Adds the addresses of a trace. -/
def addPath (decoder : Decoder) (links : Links) (path : List UInt64) : Links :=
  match path.head? with
  | none => links
  | some start =>
      let started := { links with starts := links.starts.insert start }
      (neighbours path).foldl addEdge (path.foldl (addAddress decoder) started)

/-- The addresses of a trace that have not been observed before, in the order in which their
instructions are decoded. -/
def newAddresses (links : Links) (path : List UInt64) : List UInt64 :=
  path.eraseDups.filter fun address => address ∉ links.addresses

/-- The addresses observed directly before an address. -/
def predecessors (links : Links) (address : UInt64) : List UInt64 :=
  (links.edges.filter fun edge => edge.2 == address).map Prod.fst

/-- The addresses observed directly after an address. -/
def successors (links : Links) (address : UInt64) : List UInt64 :=
  (links.edges.filter fun edge => edge.1 == address).map Prod.snd

/-- A leader starts a group: a trace started there, or control did not always come from one
instruction that always passes it on to the leader. -/
def isLeader (links : Links) (address : UInt64) : Bool :=
  links.starts.contains address ||
    match links.predecessors address with
    | [predecessor] =>
        links.breaks.contains predecessor || (links.successors predecessor).length != 1
    | _ => true

/-- The addresses that control was observed to arrive at. -/
def targets (links : Links) : List UInt64 :=
  links.edges.map Prod.snd

theorem mem_targets_of_mem_successors {links : Links} {address next : UInt64}
    (follows : next ∈ links.successors address) : next ∈ links.targets := by
  simp only [successors, List.mem_map, List.mem_filter] at follows
  obtain ⟨edge, ⟨known, -⟩, rfl⟩ := follows
  exact List.mem_map_of_mem known

/-- Prolongs a chain from its last address on. It ends at a break, where control has more or
less than one way to go, and before a leader or an address that it already contains. -/
def prolong (links : Links) (chain : List UInt64) (last : UInt64) : List UInt64 :=
  if links.breaks.contains last then chain
  else
    match _follows : links.successors last with
    | [next] =>
        if links.isLeader next ∨ next ∈ chain then chain
        else prolong links (chain ++ [next]) next
    | _ => chain
termination_by unvisited links.targets chain.reverse
decreasing_by
  rename_i open_
  have known : next ∈ links.targets :=
    mem_targets_of_mem_successors (by rw [_follows]; exact List.mem_singleton_self next)
  rw [List.reverse_append]
  exact unvisited_cons_lt known (by simpa using fun member => open_ (.inr member))

/-- The members of the group of a leader. -/
def chain (links : Links) (leader : UInt64) : List UInt64 :=
  links.prolong [leader] leader

/-- The members of the group that starts at an address, if one does. -/
def groupAt? (links : Links) (address : UInt64) : Option (List UInt64) :=
  if links.addresses.contains address && links.isLeader address then some (links.chain address)
  else none

/-- The addresses that groups start at. -/
def leaders (links : Links) : List UInt64 :=
  links.addresses.filter links.isLeader

end Links

end VmRecovery.Trace

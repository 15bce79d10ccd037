import VmRecovery.Trace.Grouping
import Mathlib.Data.List.Chain
import Mathlib.Data.List.Nodup

/-!
# What links remember of the traces

Links are built by adding one trace after the other. Membership in each of their lists says
what the traces have shown, independently of the order in which they came: the executed
addresses, where traces started, which instructions end a handler, and which pairs of addresses
followed each other. Nothing else about links is used in the theory of groups.
-/

namespace VmRecovery.Trace

open Native

/-- The first neighbours of a path are its first two addresses. -/
theorem neighbours_cons_cons (first second : UInt64) (rest : List UInt64) :
    neighbours (first :: second :: rest) = (first, second) :: neighbours (second :: rest) :=
  rfl

/-- A relation holds along a path if it holds between all neighbours in it. -/
theorem isChain_iff_neighbours {relation : UInt64 → UInt64 → Prop} (path : List UInt64) :
    path.IsChain relation ↔ ∀ edge ∈ neighbours path, relation edge.1 edge.2 := by
  induction path with
  | nil => simp [neighbours]
  | cons first rest inductionHypothesis =>
      cases rest with
      | nil => simp [neighbours]
      | cons second rest =>
          rw [List.isChain_cons_cons, inductionHypothesis, neighbours_cons_cons]
          simp

namespace Links

variable {decoder : Decoder} {links : Links}

/-- Exactly the executed addresses whose instruction ends a handler are breaks. -/
def Decoded (decoder : Decoder) (links : Links) : Prop :=
  ∀ address, address ∈ links.breaks ↔
    address ∈ links.addresses ∧ decoder.endsHandler address = true

/-- Adding an executed address does not start a trace. -/
@[simp] theorem starts_addAddress (address : UInt64) :
    (addAddress decoder links address).starts = links.starts := by
  unfold addAddress
  split <;> rfl

/-- Adding an executed address adds no pair of addresses. -/
@[simp] theorem edges_addAddress (address : UInt64) :
    (addAddress decoder links address).edges = links.edges := by
  unfold addAddress
  split <;> rfl

/-- After an address is added, it and the earlier ones are known. -/
theorem mem_addresses_addAddress {address other : UInt64} :
    other ∈ (addAddress decoder links address).addresses ↔
      other ∈ links.addresses ∨ other = address := by
  unfold addAddress
  split
  · rename_i known
    constructor
    · exact Or.inl
    · rintro (member | rfl)
      · exact member
      · exact known
  · simp [or_comm]

/-- The breaks tell the ends of handlers also after an address is added. -/
theorem Decoded.addAddress (decoded : links.Decoded decoder) (address : UInt64) :
    (addAddress decoder links address).Decoded decoder := by
  intro other
  have before := decoded other
  unfold Links.addAddress
  split
  · exact before
  · by_cases ends : decoder.endsHandler address = true
    · simp only [ends, if_true, List.mem_cons, before]
      constructor
      · rintro (rfl | member)
        · exact ⟨.inl rfl, ends⟩
        · exact ⟨.inr member.1, member.2⟩
      · rintro ⟨rfl | member, otherEnds⟩
        · exact .inl rfl
        · exact .inr ⟨member, otherEnds⟩
    · simp only [ends, Bool.false_eq_true, if_false, List.mem_cons, before]
      constructor
      · exact fun member => ⟨.inr member.1, member.2⟩
      · rintro ⟨rfl | member, otherEnds⟩
        · exact absurd otherEnds ends
        · exact ⟨member, otherEnds⟩

/-- Adding the addresses of a path does not start a trace. -/
@[simp] theorem starts_foldl_addAddress (path : List UInt64) :
    (path.foldl (addAddress decoder) links).starts = links.starts := by
  induction path generalizing links with
  | nil => rfl
  | cons address rest inductionHypothesis => simp [inductionHypothesis]

/-- Adding the addresses of a path adds no pair of addresses. -/
@[simp] theorem edges_foldl_addAddress (path : List UInt64) :
    (path.foldl (addAddress decoder) links).edges = links.edges := by
  induction path generalizing links with
  | nil => rfl
  | cons address rest inductionHypothesis => simp [inductionHypothesis]

/-- After the addresses of a path are added, these and the earlier ones are known. -/
theorem mem_addresses_foldl_addAddress (path : List UInt64) {other : UInt64} :
    other ∈ (path.foldl (addAddress decoder) links).addresses ↔
      other ∈ links.addresses ∨ other ∈ path := by
  induction path generalizing links with
  | nil => simp
  | cons address rest inductionHypothesis =>
      simp [inductionHypothesis, mem_addresses_addAddress, or_assoc]

/-- The breaks tell the ends of handlers also after the addresses of a path are added. -/
theorem Decoded.foldl_addAddress (decoded : links.Decoded decoder) (path : List UInt64) :
    (path.foldl (Links.addAddress decoder) links).Decoded decoder := by
  induction path generalizing links with
  | nil => exact decoded
  | cons address rest inductionHypothesis => exact inductionHypothesis (decoded.addAddress address)

/-- Adding pairs adds no executed address. -/
@[simp] theorem addresses_foldl_addEdge (edges : List (UInt64 × UInt64)) :
    (edges.foldl addEdge links).addresses = links.addresses := by
  induction edges generalizing links with
  | nil => rfl
  | cons edge rest inductionHypothesis => exact inductionHypothesis

/-- Adding pairs does not start a trace. -/
@[simp] theorem starts_foldl_addEdge (edges : List (UInt64 × UInt64)) :
    (edges.foldl addEdge links).starts = links.starts := by
  induction edges generalizing links with
  | nil => rfl
  | cons edge rest inductionHypothesis => exact inductionHypothesis

/-- Adding pairs decodes no instruction. -/
@[simp] theorem breaks_foldl_addEdge (edges : List (UInt64 × UInt64)) :
    (edges.foldl addEdge links).breaks = links.breaks := by
  induction edges generalizing links with
  | nil => rfl
  | cons edge rest inductionHypothesis => exact inductionHypothesis

/-- After pairs are added, these and the earlier ones are known. -/
theorem mem_edges_foldl_addEdge (edges : List (UInt64 × UInt64)) {other : UInt64 × UInt64} :
    other ∈ (edges.foldl addEdge links).edges ↔ other ∈ links.edges ∨ other ∈ edges := by
  induction edges generalizing links with
  | nil => simp
  | cons edge rest inductionHypothesis =>
      simp only [List.foldl_cons, inductionHypothesis, addEdge, List.mem_insert_iff, List.mem_cons]
      grind

/-- A pair that is added again is not repeated. -/
theorem nodup_edges_foldl_addEdge (distinct : links.edges.Nodup)
    (edges : List (UInt64 × UInt64)) : (edges.foldl addEdge links).edges.Nodup := by
  induction edges generalizing links with
  | nil => exact distinct
  | cons edge rest inductionHypothesis =>
      exact inductionHypothesis (List.Nodup.insert distinct)

/-! Adding one trace. -/

/-- A trace makes its addresses known. -/
theorem mem_addresses_addPath {path : List UInt64} {address : UInt64} :
    address ∈ (links.addPath decoder path).addresses ↔
      address ∈ links.addresses ∨ address ∈ path := by
  cases path with
  | nil => simp [addPath]
  | cons first rest =>
      simp [addPath, mem_addresses_foldl_addAddress, mem_addresses_addAddress, or_assoc]

/-- A trace starts at its first address, if it has any. -/
theorem mem_starts_addPath {path : List UInt64} {address : UInt64} :
    address ∈ (links.addPath decoder path).starts ↔
      address ∈ links.starts ∨ path.head? = some address := by
  cases path with
  | nil => simp [addPath]
  | cons first rest => simp [addPath, or_comm, eq_comm]

/-- A trace makes its neighbours known. -/
theorem mem_edges_addPath {path : List UInt64} {edge : UInt64 × UInt64} :
    edge ∈ (links.addPath decoder path).edges ↔
      edge ∈ links.edges ∨ edge ∈ neighbours path := by
  cases path with
  | nil => simp [addPath, neighbours]
  | cons first rest => simp [addPath, mem_edges_foldl_addEdge]

/-- The neighbours of a trace are known once. -/
theorem nodup_edges_addPath (distinct : links.edges.Nodup) (path : List UInt64) :
    (links.addPath decoder path).edges.Nodup := by
  cases path with
  | nil => exact distinct
  | cons first rest =>
      exact nodup_edges_foldl_addEdge (by simpa using distinct) _

/-- The breaks tell the ends of handlers also after a trace is added. -/
theorem Decoded.addPath (decoded : links.Decoded decoder) (path : List UInt64) :
    (links.addPath decoder path).Decoded decoder := by
  cases path with
  | nil => exact decoded
  | cons first rest =>
      have started : Links.Decoded decoder { links with starts := links.starts.insert first } :=
        decoded
      intro address
      have after := started.foldl_addAddress (first :: rest) address
      simpa [Links.addPath] using after

/-! Adding traces one after the other. -/

/-- The links of traces that were added in this order. -/
def ofPaths (decoder : Decoder) (paths : List (List UInt64)) : Links :=
  paths.foldl (addPath decoder) {}

/-- The trace that is added last is added to the links of those before it. -/
theorem ofPaths_append_singleton (paths : List (List UInt64)) (path : List UInt64) :
    ofPaths decoder (paths ++ [path]) = (ofPaths decoder paths).addPath decoder path := by
  simp [ofPaths]

variable {paths : List (List UInt64)}

/-- An address is known exactly if some trace executes it. -/
theorem mem_addresses_ofPaths {address : UInt64} :
    address ∈ (ofPaths decoder paths).addresses ↔ ∃ path ∈ paths, address ∈ path := by
  induction paths using List.reverseRecOn with
  | nil => simp [ofPaths]
  | append_singleton paths path inductionHypothesis =>
      simp [ofPaths_append_singleton, mem_addresses_addPath, inductionHypothesis, or_and_right,
        exists_or]

/-- A start is known exactly if some trace begins with it. -/
theorem mem_starts_ofPaths {address : UInt64} :
    address ∈ (ofPaths decoder paths).starts ↔ ∃ path ∈ paths, path.head? = some address := by
  induction paths using List.reverseRecOn with
  | nil => simp [ofPaths]
  | append_singleton paths path inductionHypothesis =>
      simp [ofPaths_append_singleton, mem_starts_addPath, inductionHypothesis, or_and_right,
        exists_or]

/-- A pair is known exactly if the addresses are neighbours in some trace. -/
theorem mem_edges_ofPaths {edge : UInt64 × UInt64} :
    edge ∈ (ofPaths decoder paths).edges ↔ ∃ path ∈ paths, edge ∈ neighbours path := by
  induction paths using List.reverseRecOn with
  | nil => simp [ofPaths]
  | append_singleton paths path inductionHypothesis =>
      simp [ofPaths_append_singleton, mem_edges_addPath, inductionHypothesis, or_and_right,
        exists_or]

/-- Every pair is known once, however many traces show it. -/
theorem nodup_edges_ofPaths (decoder : Decoder) (paths : List (List UInt64)) :
    (ofPaths decoder paths).edges.Nodup := by
  induction paths using List.reverseRecOn with
  | nil => exact List.nodup_nil
  | append_singleton paths path inductionHypothesis =>
      rw [ofPaths_append_singleton]
      exact nodup_edges_addPath inductionHypothesis path

/-- The breaks are the executed addresses whose instruction ends a handler, whatever the traces are.
-/
theorem decoded_ofPaths (decoder : Decoder) (paths : List (List UInt64)) :
    (ofPaths decoder paths).Decoded decoder := by
  induction paths using List.reverseRecOn with
  | nil => simp [Decoded, ofPaths]
  | append_singleton paths path inductionHypothesis =>
      rw [ofPaths_append_singleton]
      exact inductionHypothesis.addPath path

/-- A later moment has seen every pair of an earlier one. -/
theorem edges_subset_ofPaths_append (earlier later : List (List UInt64)) :
    (ofPaths decoder earlier).edges ⊆ (ofPaths decoder (earlier ++ later)).edges := by
  intro edge known
  obtain ⟨path, member, shown⟩ := mem_edges_ofPaths.mp known
  exact mem_edges_ofPaths.mpr ⟨path, List.mem_append_left later member, shown⟩

end Links

namespace Grouping

/-- Adds a trace and renews the groups. -/
def observe (decoder : Decoder) (grouping : Grouping) (path : List UInt64) : Grouping :=
  (grouping.add decoder path).renew

/-- The grouping after traces were observed in this order. -/
def ofRounds (decoder : Decoder) (paths : List (List UInt64)) : Grouping :=
  paths.foldl (observe decoder) {}

/-- The last round adds its trace to the grouping of the rounds before it. -/
theorem ofRounds_append_singleton (decoder : Decoder) (paths : List (List UInt64))
    (path : List UInt64) :
    ofRounds decoder (paths ++ [path]) = (ofRounds decoder paths).observe decoder path := by
  simp [ofRounds]

/-- After every round the groups in force are those of all traces so far. -/
theorem ofRounds_eq (decoder : Decoder) (paths : List (List UInt64)) :
    ofRounds decoder paths =
      { links := Links.ofPaths decoder paths, grouped := Links.ofPaths decoder paths } := by
  induction paths using List.reverseRecOn with
  | nil => rfl
  | append_singleton paths path inductionHypothesis =>
      rw [ofRounds_append_singleton, inductionHypothesis, Links.ofPaths_append_singleton]
      rfl

/-- The grouping after traces were added in this order, without renewing the groups. -/
def addAll (decoder : Decoder) (grouping : Grouping) (paths : List (List UInt64)) : Grouping :=
  paths.foldl (add · decoder) grouping

/-- Traces are added to the links of a grouping, whether or not groups are renewed. -/
theorem links_addAll (decoder : Decoder) (grouping : Grouping) (paths : List (List UInt64)) :
    (grouping.addAll decoder paths).links = paths.foldl (Links.addPath decoder) grouping.links := by
  induction paths generalizing grouping with
  | nil => rfl
  | cons path rest inductionHypothesis => exact inductionHypothesis (grouping.add decoder path)

/-- Renewing the groups once at the end is as good as renewing them after every trace. -/
theorem renew_addAll (decoder : Decoder) (paths : List (List UInt64)) :
    (addAll decoder {} paths).renew = ofRounds decoder paths := by
  have added := links_addAll decoder {} paths
  rw [ofRounds_eq, renew, added]
  rfl

end Grouping

end VmRecovery.Trace

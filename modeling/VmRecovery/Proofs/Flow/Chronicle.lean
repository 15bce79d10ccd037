import VmRecovery.Proofs.Flow.Growth
import VmRecovery.Proofs.Flow.Stage

/-!
# The log of a recovery

A job claims a position and opens the block there in one edit, so that the claimed positions, the
blocks and the entries of the log never drift apart: blocks lie exactly where positions have been
claimed, the log tells of each of them once, and it tells of a repeated claim only behind the
block that was found (`Chronicled`).
-/

namespace VmRecovery.Flow

open Machine Trace

variable {σ : Type} {backend : Backend σ} {settings : Settings} {start stage stage' : Stage σ}

/-- The position at which a change has opened a block. -/
def Change.created? : Change → Option Position
  | blockCreated start => some start
  | _ => none

/-- The positions at which blocks were opened, as a log tells it. -/
def createdIn (log : List LogEntry) : List Position :=
  log.filterMap fun entry => entry.change.created?

/-- A log tells of a repeated claim only after the block that was found there. -/
def SkipsFollow (log : List LogEntry) : Prop :=
  ∀ earlier entry later position, log = earlier ++ entry :: later →
    entry.change = .visitSkipped position → position ∈ createdIn earlier

/-- An entry of a log that has just grown is the new one, or the log had it before. -/
theorem split_concat {log earlier later : List LogEntry} {entry other : LogEntry}
    (split : log ++ [entry] = earlier ++ other :: later) :
    (earlier = log ∧ other = entry) ∨ ∃ before, log = earlier ++ other :: before := by
  cases later using List.reverseRecOn with
  | nil =>
      obtain ⟨rfl, same⟩ := List.append_inj' split rfl
      exact .inl ⟨rfl, (List.singleton_inj.mp same).symm⟩
  | append_singleton before last _ =>
      rw [← List.cons_append, ← List.append_assoc] at split
      exact .inr ⟨before, (List.append_inj' split rfl).1⟩

/-- A repeated claim may be logged last if the log tells of the block before. -/
theorem SkipsFollow.concat {log : List LogEntry} {entry : LogEntry} (follow : SkipsFollow log)
    (known : ∀ position, entry.change = .visitSkipped position → position ∈ createdIn log) :
    SkipsFollow (log ++ [entry]) := by
  intro earlier other later position split isSkip
  obtain ⟨rfl, rfl⟩ | ⟨before, split⟩ := split_concat split
  · exact known position isSkip
  · exact follow earlier other before position split isSkip

namespace Graph

variable {graph grown claimed created skipped : Graph} {position : Position} {change : Change}

/-- The claimed positions, the blocks and the log agree. -/
structure Chronicled (graph : Graph) : Prop where
  visited : ∀ position, position ∈ graph.visited ↔ graph.Owns position
  created : ∀ position, position ∈ createdIn graph.log ↔ graph.Owns position
  distinct : (createdIn graph.log).Nodup
  skips : SkipsFollow graph.log

/-- In an empty graph there is nothing to agree about. -/
theorem chronicled_empty : Chronicled {} where
  visited := by simp [Owns, block?]
  created := by simp [createdIn, Owns, block?]
  distinct := List.nodup_nil
  skips := by simp [SkipsFollow]

/-- A logged change adds its position to the created ones, if it is a creation. -/
theorem Logs.createdIn_eq (logs : graph.Logs grown change) :
    createdIn grown.log = createdIn graph.log ++ change.created?.toList := by
  rw [logs, createdIn, List.filterMap_append]
  cases opened : change.created? <;> simp [createdIn, opened]

/-- Creating a block adds just its position to those of the blocks. -/
theorem owns_createBlock {start : Position} (creates : graph.createBlock start = .ok created) :
    created.Owns position ↔ position = start ∨ graph.Owns position := by
  rw [Owns, block?_createBlock creates]
  by_cases same : start = position
  · simp [same]
  · rw [if_neg same]
    exact (or_iff_right (Ne.symm same)).symm

/-- Opening a block keeps the log listing every block once. -/
theorem lists_createBlock {start : Position} (creates : graph.createBlock start = .ok created)
    (lists : ∀ position, position ∈ createdIn graph.log ↔ graph.Owns position)
    (distinct : (createdIn graph.log).Nodup) :
    (∀ position, position ∈ createdIn created.log ↔ created.Owns position) ∧
      (createdIn created.log).Nodup := by
  have createdIn_eq : createdIn created.log = createdIn graph.log ++ [start] :=
    (logs_of_createBlock creates).createdIn_eq
  obtain ⟨absent, -⟩ := createBlock_eq_ok creates
  rw [createdIn_eq]
  constructor
  · intro position
    rw [owns_createBlock creates, List.mem_append, List.mem_singleton, lists, or_comm]
  · refine distinct.append (List.nodup_singleton start) ?_
    rintro other known isNew
    obtain rfl := List.mem_singleton.mp isNew
    obtain ⟨owner, found⟩ := (lists other).mp known
    cases absent.symm.trans found

namespace Chronicled

/-- A graph stays chronicled if neither its blocks nor its log change. -/
theorem of_sameLog (chronicled : graph.Chronicled)
    (sameOwners : ∀ position, grown.Owns position ↔ graph.Owns position)
    (sameVisited : grown.visited = graph.visited) (sameLog : grown.log = graph.log) :
    grown.Chronicled where
  visited := by
    intro position
    rw [sameVisited, sameOwners, chronicled.visited]
  created := by
    intro position
    rw [sameLog, sameOwners, chronicled.created]
  distinct := sameLog ▸ chronicled.distinct
  skips := sameLog ▸ chronicled.skips

/-- It stays so if the log tells of a change that opens no block. -/
theorem of_logs (chronicled : graph.Chronicled) (logs : graph.Logs grown change)
    (sameOwners : ∀ position, grown.Owns position ↔ graph.Owns position)
    (sameVisited : grown.visited = graph.visited) (opensNone : change.created? = none)
    (known : ∀ position, change = .visitSkipped position → graph.Owns position) :
    grown.Chronicled := by
  have sameCreated : createdIn grown.log = createdIn graph.log := by
    rw [logs.createdIn_eq, opensNone, Option.toList_none, List.append_nil]
  constructor
  · intro position
    rw [sameVisited, sameOwners, chronicled.visited]
  · intro position
    rw [sameCreated, sameOwners, chronicled.created]
  · exact sameCreated ▸ chronicled.distinct
  · rw [logs]
    apply chronicled.skips.concat
    intro position isSkip
    exact (chronicled.created position).mpr (known position isSkip)

/-- An edge is logged without any mark on claims and blocks. -/
theorem link (chronicled : graph.Chronicled) (edge : Edge) : (graph.link edge).2.Chronicled := by
  rcases graph.logs_link edge with same | logs
  · rwa [same]
  · apply chronicled.of_logs logs
    · intro position
      rw [Owns, Owns, block?_link]
    · exact visited_link edge
    · rfl
    · simp

/-- Control that arrives at a position leaves claims and blocks alone. -/
theorem arrive (chronicled : graph.Chronicled) (source : Option Position) (position : Position) :
    (graph.arrive source position).Chronicled := by
  cases source with
  | none => exact chronicled
  | some source => exact chronicled.link _

/-- A claim that is turned down finds the block of the position. -/
theorem skips_of_taken (chronicled : graph.Chronicled)
    (taken : graph.claim position = (false, skipped)) : skipped.Chronicled := by
  have logs := logs_of_taken taken
  obtain ⟨known, rfl⟩ := claim_eq_false taken
  apply chronicled.of_logs logs
  · exact fun _ => Iff.rfl
  · rfl
  · rfl
  · rintro other ⟨⟩
    exact (chronicled.visited position).mp known

/-- A position that can be claimed owns no block. -/
theorem creates_of_free (chronicled : graph.Chronicled)
    (free : graph.claim position = (true, claimed)) :
    ∃ created, claimed.createBlock position = .ok created := by
  obtain ⟨new, rfl⟩ := claim_eq_true free
  apply createBlock_of_absent
  cases found : graph.block? position with
  | none => exact found
  | some owner => exact absurd ((chronicled.visited position).mpr ⟨owner, found⟩) new

/-- A position that can be claimed has its block opened once. -/
theorem opens_of_free (chronicled : graph.Chronicled)
    (free : graph.claim position = (true, claimed))
    (creates : claimed.createBlock position = .ok created) : created.Chronicled := by
  obtain ⟨-, rfl⟩ := claim_eq_true free
  obtain ⟨-, visited, -, -⟩ := createBlock_eq_ok creates
  have owns : ∀ other, created.Owns other ↔ other = position ∨ graph.Owns other := by
    intro other
    rw [owns_createBlock creates]
    rfl
  have lists := lists_createBlock creates chronicled.created chronicled.distinct
  refine ⟨?_, lists.1, lists.2, ?_⟩
  · intro other
    rw [visited, owns, ← chronicled.visited]
    simp
  · rw [logs_of_createBlock creates]
    exact chronicled.skips.concat (by simp)

/-- An instruction is appended without any mark on claims and log. -/
theorem appendInstruction {block : Position} {instruction : Instruction}
    (chronicled : graph.Chronicled)
    (grows : graph.appendInstruction block instruction = .ok grown) : grown.Chronicled := by
  apply chronicled.of_sameLog fun position => owns_appendInstruction grows
  · obtain ⟨owner, -, rfl⟩ := appendInstruction_eq_ok grows
    rfl
  · obtain ⟨owner, -, rfl⟩ := appendInstruction_eq_ok grows
    rfl

end Chronicled

end Graph

/-- An edit leaves every block in the graph. -/
theorem GraphEdit.owns {walk : Walk} {graph grown : Graph} {position : Position}
    (edit : GraphEdit walk graph grown) (owned : graph.Owns position) : grown.Owns position := by
  cases edit with
  | opens fresh recorded free creates grows =>
      exact (opened_of_free free creates grows).owns.mpr (.inr owned)
  | revisits fresh taken =>
      obtain ⟨-, rfl⟩ := Graph.claim_eq_false taken
      obtain ⟨owner, found⟩ := owned
      exact ⟨owner, (Graph.block?_arrive _ _).trans found⟩
  | stalls fresh free present =>
      obtain ⟨-, rfl⟩ := Graph.claim_eq_true free
      obtain ⟨owner, found⟩ := owned
      exact ⟨owner, (Graph.block?_arrive _ _).trans found⟩
  | appends own recorded grows => exact (Graph.owns_appendInstruction grows).mpr owned
  | calls behind isExit grows => exact (Graph.owns_appendInstruction grows).mpr owned
  | leaves behind isExit isSet => rwa [Graph.Owns, Graph.block?_link]

/-- Blocks stay where they are whatever a job does. -/
theorem Edits.owns {walk : Walk} {state after : Recovery σ} {position : Position}
    (edits : Edits walk state after) (owned : state.graph.Owns position) :
    after.graph.Owns position := by
  induction edits with
  | refl => exact owned
  | tail _ edit inductionHypothesis =>
      cases edit with
      | graph edit => exact edit.owns inductionHypothesis
      | _ => exact inductionHypothesis

/-- An edit leaves the claimed positions, the blocks and the log in agreement. -/
theorem GraphEdit.chronicled {walk : Walk} {graph grown : Graph}
    (edit : GraphEdit walk graph grown) (chronicled : graph.Chronicled) : grown.Chronicled := by
  cases edit with
  | opens fresh recorded free creates grows =>
      exact ((chronicled.arrive _ _).opens_of_free free creates).appendInstruction grows
  | revisits fresh taken => exact (chronicled.arrive _ _).skips_of_taken taken
  | stalls fresh free present =>
      obtain ⟨created, creates⟩ := (chronicled.arrive _ _).creates_of_free free
      cases creates.symm.trans present
  | appends own recorded grows => exact chronicled.appendInstruction grows
  | calls behind isExit grows => exact chronicled.appendInstruction grows
  | leaves behind isExit isSet => exact chronicled.link _

/-- Claims, blocks and log agree after any edits of a job. -/
theorem Edits.chronicled {walk : Walk} {state after : Recovery σ} (edits : Edits walk state after)
    (chronicled : state.graph.Chronicled) : after.graph.Chronicled := by
  induction edits with
  | refl => exact chronicled
  | tail _ edit inductionHypothesis =>
      cases edit with
      | graph edit => exact edit.chronicled inductionHypothesis
      | _ => exact inductionHypothesis

/-- Claims, blocks and log agree after every step of a run. -/
theorem Advance.chronicled (advance : Advance backend settings stage stage')
    (chronicled : stage.state.graph.Chronicled) : stage'.state.graph.Chronicled := by
  cases advance.transition with
  | turns unfinished edits continued => exact edits.chronicled chronicled
  | fails unfinished edits accounted =>
      obtain ⟨session, report, rfl⟩ := accounted
      exact edits.chronicled chronicled
  | completes accounted | concludes accounted =>
      obtain ⟨session, report, rfl⟩ := accounted
      exact chronicled
  | requests | launches | stumbles => exact chronicled

/-- Claims, blocks and log agree at every moment of a run. -/
theorem Runs.chronicled (runs : Runs backend settings start stage)
    (chronicled : start.state.graph.Chronicled) : stage.state.graph.Chronicled := by
  induction runs with
  | refl => exact chronicled
  | tail _ advance inductionHypothesis => exact advance.chronicled inductionHypothesis

end VmRecovery.Flow

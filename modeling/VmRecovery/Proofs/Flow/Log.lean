import VmRecovery.Proofs.Flow.Chronicle

/-!
# The log as a record of the graph

A graph may be asked for its changes in any order, with requests that it turns down or that have
to fail among them. Whatever it is asked, its log tells of every block once and of its edges in
their order, and the sizes in the log are the numbers of changes entered so far
(`log_determines_graph`).

What one request does is said once, by cases on its answer (`comesTo_answer`). The agreement
between log and graph (`Logged`) is derived from that for one request, and carried along a list of
them by induction.
-/

namespace VmRecovery.Flow

/-- The edge that a change has added. -/
def Change.linked? : Change → Option Edge
  | edgeLinked edge => some edge
  | _ => none

/-- The edges that were added, as a log tells it. -/
def linkedIn (log : List LogEntry) : List Edge :=
  log.filterMap fun entry => entry.change.linked?

/-- As many positions are created in a log as it has entries of creations. -/
theorem length_createdIn (log : List LogEntry) :
    (createdIn log).length = log.countP fun entry => entry.change.isCreation := by
  rw [createdIn, List.length_filterMap_eq_countP]
  refine List.countP_congr fun entry _ => ?_
  cases entry.change <;> simp [Change.created?, Change.isCreation]

/-- As many edges are linked in a log as it has entries of links. -/
theorem length_linkedIn (log : List LogEntry) :
    (linkedIn log).length = log.countP fun entry => entry.change.isLink := by
  rw [linkedIn, List.length_filterMap_eq_countP]
  refine List.countP_congr fun entry _ => ?_
  cases entry.change <;> simp [Change.linked?, Change.isLink]

/-- Every entry gives the numbers of blocks and edges entered up to itself. -/
def CountsUp (log : List LogEntry) : Prop :=
  ∀ earlier entry later, log = earlier ++ entry :: later →
    entry.blocks = (createdIn (earlier ++ [entry])).length ∧
      entry.edges = (linkedIn (earlier ++ [entry])).length

/-- A log counts up if it did before its last entry and that one gives the numbers up to itself. -/
theorem CountsUp.concat {log : List LogEntry} {entry : LogEntry} (countsUp : CountsUp log)
    (blocks : entry.blocks = (createdIn (log ++ [entry])).length)
    (edges : entry.edges = (linkedIn (log ++ [entry])).length) : CountsUp (log ++ [entry]) := by
  intro earlier other later split
  obtain ⟨rfl, rfl⟩ | ⟨before, split⟩ := split_concat split
  · exact ⟨blocks, edges⟩
  · exact countsUp earlier other before split

namespace Graph

variable {graph grown : Graph} {edge : Edge} {change : Change}

/-- A logged change adds its edge to those that the log tells of, if it is a link. -/
theorem Logs.linkedIn_eq (logs : graph.Logs grown change) :
    linkedIn grown.log = linkedIn graph.log ++ change.linked?.toList := by
  rw [logs, linkedIn, List.filterMap_append]
  cases added : change.linked? <;> simp [linkedIn, added]

/-- A logged change keeps a log counting up if the graph has the blocks and edges that are told of.
-/
theorem Logs.countsUp (logs : graph.Logs grown change) (countsUp : CountsUp graph.log)
    (blocks : grown.blocks.size = (createdIn grown.log).length)
    (edges : linkedIn grown.log = grown.edges) : CountsUp grown.log := by
  rw [logs] at blocks edges ⊢
  exact countsUp.concat blocks (congrArg List.length edges).symm

/-- A logged change counts as skipped exactly if it tells of a claim that was turned down. -/
theorem Logs.skipped_eq (logs : graph.Logs grown change) :
    grown.changeCounts.skipped = graph.changeCounts.skipped + if change.isSkip then 1 else 0 := by
  simp only [changeCounts, ChangeCounts.ofLog]
  rw [logs, List.countP_append, List.countP_singleton]

/-- A link is new where the edge was not there. The edge is put behind the others and logged. -/
theorem link_eq_true {linked : Graph} (new : graph.link edge = (true, linked)) :
    edge ∉ graph.edges ∧ linked.edges = graph.edges ++ [edge] ∧
      linked.blocks = graph.blocks ∧ linked.visited = graph.visited ∧
      graph.Logs linked (.edgeLinked edge) := by
  unfold link at new
  split at new
  · cases new
  · rename_i fresh
    obtain rfl := (Prod.ext_iff.mp new).2
    exact ⟨fresh, rfl, rfl, rfl, rfl⟩

/-- A link is not new where the edge was there, and nothing changes. -/
theorem link_eq_false {linked : Graph} (known : graph.link edge = (false, linked)) :
    edge ∈ graph.edges ∧ linked = graph := by
  unfold link at known
  split at known
  · rename_i member
    exact ⟨member, (Prod.ext_iff.mp known).2.symm⟩
  · cases known

/-! Requests and their answers. -/

/-- A change that is asked of a graph. -/
inductive Request where
  | claim (position : Position)
  | create (start : Position)
  | append (start : Position) (instruction : Instruction)
  | link (edge : Edge)

/-- Carries out a request. The answer tells whether there was anything new, or why the request
failed; what has failed leaves the graph as it was. -/
def answer (graph : Graph) : Request → Except Fault Bool × Graph
  | .claim position =>
      let (free, claimed) := graph.claim position
      (.ok free, claimed)
  | .create start =>
      match graph.createBlock start with
      | .ok created => (.ok true, created)
      | .error fault => (.error fault, graph)
  | .append start instruction =>
      match graph.appendInstruction start instruction with
      | .ok grown => (.ok true, grown)
      | .error fault => (.error fault, graph)
  | .link edge =>
      let (new, linked) := graph.link edge
      (.ok new, linked)

/-- What a request can come to. -/
inductive ComesTo (graph : Graph) : Request → Except Fault Bool × Graph → Prop where
  | claims {position : Position} {claimed : Graph}
      (free : graph.claim position = (true, claimed)) :
      ComesTo graph (.claim position) (.ok true, claimed)
  | skips {position : Position} {skipped : Graph}
      (taken : graph.claim position = (false, skipped)) :
      ComesTo graph (.claim position) (.ok false, skipped)
  | creates {start : Position} {created : Graph}
      (creates : graph.createBlock start = .ok created) :
      ComesTo graph (.create start) (.ok true, created)
  | present {start : Position} (owned : graph.Owns start) :
      ComesTo graph (.create start) (.error (.blockPresent start), graph)
  | appends {start : Position} {instruction : Instruction} {grown : Graph}
      (grows : graph.appendInstruction start instruction = .ok grown) :
      ComesTo graph (.append start instruction) (.ok true, grown)
  | missing {start : Position} {instruction : Instruction} (free : ¬graph.Owns start) :
      ComesTo graph (.append start instruction) (.error (.blockMissing start), graph)
  | links {edge : Edge} {linked : Graph} (new : graph.link edge = (true, linked)) :
      ComesTo graph (.link edge) (.ok true, linked)
  | repeats {edge : Edge} (known : edge ∈ graph.edges) :
      ComesTo graph (.link edge) (.ok false, graph)

/-- These are all the cases that the answer to a request can come to. -/
theorem comesTo_answer (graph : Graph) (request : Request) :
    ComesTo graph request (graph.answer request) := by
  cases request with
  | claim position =>
      rcases answer : graph.claim position with ⟨free, claimed⟩
      simp only [Graph.answer, answer]
      cases free with
      | true => exact .claims answer
      | false => exact .skips answer
  | create start =>
      cases found : graph.block? start with
      | none =>
          obtain ⟨created, creates⟩ := createBlock_of_absent found
          simp only [answer, creates]
          exact .creates creates
      | some owner =>
          have fails : graph.createBlock start = .error (.blockPresent start) := by
            simp [createBlock, found]
          simp only [answer, fails]
          exact .present ⟨owner, found⟩
  | append start instruction =>
      cases found : graph.block? start with
      | none =>
          have fails : graph.appendInstruction start instruction =
              .error (.blockMissing start) := by
            simp [appendInstruction, found]
          simp only [answer, fails]
          exact .missing (by simp [Owns, found])
      | some owner =>
          obtain ⟨grown, grows⟩ : ∃ grown, graph.appendInstruction start instruction = .ok grown :=
            appendInstruction_of_present found
          simp only [answer, grows]
          exact .appends grows
  | link edge =>
      rcases answer : graph.link edge with ⟨new, linked⟩
      simp only [Graph.answer, answer]
      cases new with
      | true => exact .links answer
      | false =>
          obtain ⟨known, rfl⟩ := link_eq_false answer
          exact .repeats known

/-- What a request asks for holds of a graph. -/
def Request.MetBy (request : Request) (graph : Graph) : Prop :=
  match request with
  | .claim position => position ∈ graph.visited
  | .create start => graph.Owns start
  | .append start instruction => graph.EndsWith start instruction
  | .link edge => edge ∈ graph.edges

namespace ComesTo

variable {request : Request} {result : Except Fault Bool × Graph} {fault : Fault}

/-- A request that does not fail is carried out. -/
theorem metBy (comesTo : ComesTo graph request result) {new : Bool}
    (succeeds : result.1 = .ok new) : request.MetBy result.2 := by
  cases comesTo with
  | claims free =>
      obtain ⟨-, rfl⟩ := claim_eq_true free
      exact List.mem_cons_self
  | skips taken =>
      obtain ⟨known, rfl⟩ := claim_eq_false taken
      exact known
  | creates creates => exact (owns_createBlock creates).mpr (.inl rfl)
  | appends grows => exact endsWith_of_appendInstruction grows
  | links new =>
      obtain ⟨-, edges, -⟩ := link_eq_true new
      rw [Request.MetBy, edges]
      exact List.mem_append_right _ List.mem_cons_self
  | repeats known => exact known
  | present | missing => cases succeeds

/-- A request fails exactly for a block that is there already or is missing. -/
theorem eq_error_iff (comesTo : ComesTo graph request result) :
    result.1 = .error fault ↔
      (∃ start, request = .create start ∧ graph.Owns start ∧ fault = .blockPresent start) ∨
        ∃ start instruction, request = .append start instruction ∧ ¬graph.Owns start ∧
          fault = .blockMissing start := by
  cases comesTo with
  | creates creates =>
      obtain ⟨absent, -⟩ := createBlock_eq_ok creates
      simp [Owns, absent]
  | appends grows =>
      obtain ⟨owner, found, -⟩ := appendInstruction_eq_ok grows
      simp [Owns, found]
  | present owned => simp [owned, eq_comm]
  | missing free => simp [free, eq_comm]
  | claims | skips | links | repeats => simp

/-- What has failed has changed nothing. -/
theorem eq_of_error (comesTo : ComesTo graph request result) (fails : result.1 = .error fault) :
    result.2 = graph := by
  cases comesTo with
  | present | missing => rfl
  | claims | skips | creates | appends | links | repeats => cases fails

end ComesTo

/-! Agreement of the log with the graph. -/

/-- The log tells of the blocks and the edges of a graph, and of how many there were at each
entry. -/
structure Logged (graph : Graph) : Prop where
  created : ∀ position, position ∈ createdIn graph.log ↔ graph.Owns position
  distinct : (createdIn graph.log).Nodup
  size : graph.blocks.size = (createdIn graph.log).length
  linked : linkedIn graph.log = graph.edges
  unrepeated : graph.edges.Nodup
  counted : CountsUp graph.log
  /-- Blocks lie at claimed positions and know where they start. -/
  placed : ∀ position owner, graph.block? position = some owner →
    position ∈ graph.visited ∧ owner.start = position

/-- The log of an empty graph tells of nothing. -/
theorem logged_empty : Logged {} where
  created := by simp [createdIn, Owns, block?]
  distinct := List.nodup_nil
  size := rfl
  linked := rfl
  unrepeated := List.nodup_nil
  counted := by simp [CountsUp]
  placed := by simp [block?]

/-- Inserting a block makes the graph larger by one, unless a block was there. -/
theorem size_insert (start : Position) (block : Block) :
    (graph.blocks.insert start block).size =
      graph.blocks.size + if (graph.block? start).isSome then 0 else 1 := by
  rw [Std.TreeMap.size_insert, Std.TreeMap.contains_eq_isSome_getElem?, ← block?]
  split <;> simp

namespace Logged

variable {start position : Position} {instruction : Instruction}

/-- It suffices that the log tells of a change to the edges alone. -/
theorem of_logs (logged : graph.Logged) (logs : graph.Logs grown change)
    (sameBlocks : grown.blocks = graph.blocks) (sameVisited : grown.visited = graph.visited)
    (opensNone : change.created? = none)
    (edges : grown.edges = graph.edges ++ change.linked?.toList)
    (unrepeated : grown.edges.Nodup) : grown.Logged := by
  have sameCreated : createdIn grown.log = createdIn graph.log := by
    rw [logs.createdIn_eq, opensNone, Option.toList_none, List.append_nil]
  have sameBlock : grown.block? = graph.block? := by
    funext position
    rw [block?, sameBlocks, block?]
  have size : grown.blocks.size = (createdIn grown.log).length := by
    rw [sameBlocks, sameCreated, logged.size]
  have linked : linkedIn grown.log = grown.edges := by
    rw [logs.linkedIn_eq, logged.linked, edges]
  refine ⟨?_, ?_, size, linked, unrepeated, logs.countsUp logged.counted size linked, ?_⟩
  · intro position
    rw [sameCreated, logged.created, Owns, Owns, sameBlock]
  · exact sameCreated ▸ logged.distinct
  · rw [sameBlock, sameVisited]
    exact logged.placed

/-- A position may be claimed without a block being opened there. -/
theorem claim {claimed : Graph} (logged : graph.Logged)
    (free : graph.claim position = (true, claimed)) : claimed.Logged := by
  obtain ⟨-, rfl⟩ := claim_eq_true free
  refine { logged with placed := ?_ }
  intro other owner found
  obtain ⟨isVisited, starts⟩ := logged.placed other owner found
  exact ⟨List.mem_cons_of_mem _ isVisited, starts⟩

/-- A claim that is turned down is logged, and changes nothing that the log has to tell. -/
theorem skip {skipped : Graph} (logged : graph.Logged)
    (taken : graph.claim position = (false, skipped)) : skipped.Logged := by
  have logs := logs_of_taken taken
  obtain ⟨-, rfl⟩ := claim_eq_false taken
  exact logged.of_logs logs rfl rfl rfl (List.append_nil _).symm logged.unrepeated

/-- The created block is told of once more than before, which is once, as there was none. -/
theorem createBlock {created : Graph} (logged : graph.Logged)
    (creates : graph.createBlock start = .ok created) : created.Logged := by
  have logs := logs_of_createBlock creates
  obtain ⟨absent, visited, edges, blocks⟩ := createBlock_eq_ok creates
  obtain ⟨lists, distinct⟩ := lists_createBlock creates logged.created logged.distinct
  have size : created.blocks.size = (createdIn created.log).length := by
    rw [blocks, size_insert, absent, logs.createdIn_eq, List.length_append, logged.size]
    rfl
  have linked : linkedIn created.log = created.edges := by
    rw [logs.linkedIn_eq, edges, logged.linked]
    exact List.append_nil _
  refine ⟨lists, distinct, size, linked, edges ▸ logged.unrepeated,
    logs.countsUp logged.counted size linked, ?_⟩
  intro position owner found
  rw [block?_createBlock creates] at found
  rw [visited, List.mem_insert_iff]
  split at found
  · rename_i same
    obtain rfl := Option.some.inj found
    exact ⟨.inl same.symm, same⟩
  · obtain ⟨isVisited, starts⟩ := logged.placed position owner found
    exact ⟨.inr isVisited, starts⟩

/-- An instruction lengthens a block that the log tells of already. -/
theorem appendInstruction (logged : graph.Logged)
    (grows : graph.appendInstruction start instruction = .ok grown) : grown.Logged := by
  have owns : ∀ position, grown.Owns position ↔ graph.Owns position :=
    fun _ => owns_appendInstruction grows
  obtain ⟨owner, found, rfl⟩ := appendInstruction_eq_ok grows
  refine { logged with created := ?_, size := ?_, placed := ?_ }
  · intro position
    rw [owns, ← logged.created]
  · rw [size_insert, found]
    exact logged.size
  · intro position block isBlock
    rw [block?_appendInstruction found grows] at isBlock
    split at isBlock
    · rename_i same
      obtain rfl := Option.some.inj isBlock
      exact same ▸ logged.placed start owner found
    · exact logged.placed position block isBlock

/-- The new edge is told of behind the others. -/
theorem link {linked : Graph} (logged : graph.Logged)
    (new : graph.link edge = (true, linked)) : linked.Logged := by
  obtain ⟨fresh, edges, blocks, visited, logs⟩ := link_eq_true new
  refine logged.of_logs logs blocks visited rfl edges ?_
  rw [edges]
  refine logged.unrepeated.append (List.nodup_singleton edge) ?_
  simpa using fresh

/-- Log and graph agree after a request, whether it is granted, turned down or failed. -/
theorem comesTo (logged : graph.Logged) {request : Request} {result : Except Fault Bool × Graph}
    (comesTo : ComesTo graph request result) : result.2.Logged := by
  cases comesTo with
  | claims free => exact logged.claim free
  | skips taken => exact logged.skip taken
  | creates creates => exact logged.createBlock creates
  | appends grows => exact logged.appendInstruction grows
  | links new => exact logged.link new
  | present | missing | repeats => exact logged

end Logged

/-! Any number of requests. -/

/-- The graph after a list of requests, the failing ones included. -/
def answerAll (graph : Graph) (requests : List Request) : Graph :=
  requests.foldl (fun graph request => (graph.answer request).2) graph

/-- The answers that a list of requests is given, each beside its request. -/
def exchanges (graph : Graph) : List Request → List (Request × Except Fault Bool)
  | [] => []
  | request :: later =>
      let (answer, changed) := graph.answer request
      (request, answer) :: changed.exchanges later

/-- Whether a claim was turned down. -/
def isRefusal : Request × Except Fault Bool → Bool
  | (.claim _, .ok false) => true
  | _ => false

/-- Log and graph agree after any list of requests. -/
theorem Logged.answerAll (logged : graph.Logged) (requests : List Request) :
    (graph.answerAll requests).Logged := by
  induction requests generalizing graph with
  | nil => exact logged
  | cons request later inductionHypothesis =>
      exact inductionHypothesis (logged.comesTo (comesTo_answer graph request))

/-- Only a claim that is turned down is entered as a skip. -/
theorem ComesTo.skipped_eq {request : Request} {result : Except Fault Bool × Graph}
    (comesTo : ComesTo graph request result) :
    result.2.changeCounts.skipped =
      graph.changeCounts.skipped + if isRefusal (request, result.1) then 1 else 0 := by
  cases comesTo with
  | claims free =>
      obtain ⟨-, rfl⟩ := claim_eq_true free
      rfl
  | skips taken => exact (logs_of_taken taken).skipped_eq
  | creates creates => exact (logs_of_createBlock creates).skipped_eq
  | appends grows =>
      obtain ⟨owner, -, rfl⟩ := appendInstruction_eq_ok grows
      rfl
  | links new =>
      obtain ⟨-, -, -, -, logs⟩ := link_eq_true new
      exact logs.skipped_eq
  | present | missing | repeats => rfl

/-- As many claims are logged as turned down as requests were answered so. -/
theorem skipped_answerAll (graph : Graph) (requests : List Request) :
    (graph.answerAll requests).changeCounts.skipped =
      graph.changeCounts.skipped + (graph.exchanges requests).countP isRefusal := by
  induction requests generalizing graph with
  | nil => rfl
  | cons request later inductionHypothesis =>
      calc (graph.answerAll (request :: later)).changeCounts.skipped
          = (graph.answer request).2.changeCounts.skipped +
              ((graph.answer request).2.exchanges later).countP isRefusal :=
            inductionHypothesis (graph.answer request).2
        _ = graph.changeCounts.skipped + (graph.exchanges (request :: later)).countP isRefusal := by
            rw [(comesTo_answer graph request).skipped_eq, exchanges, List.countP_cons,
              Nat.add_right_comm, Nat.add_assoc]

/-- Whatever a new graph is asked, in any order and with failing requests among it, its log tells
of every block once and of the edges in their order, no edge is there twice, every entry counts
the blocks and the edges up to itself, blocks lie at claimed positions, and the changes counted in
the log are the blocks, the edges and the claims that were turned down. A request is carried out,
or it fails for a block that is present or missing, and then it changes nothing. -/
theorem log_determines_graph (requests : List Request) :
    let graph := answerAll {} requests
    ((createdIn graph.log).Nodup ∧
        ∀ position, position ∈ createdIn graph.log ↔ graph.Owns position) ∧
      linkedIn graph.log = graph.edges ∧ graph.edges.Nodup ∧
      (∀ earlier entry later, graph.log = earlier ++ entry :: later →
        entry.blocks = (earlier ++ [entry]).countP (·.change.isCreation) ∧
          entry.edges = (earlier ++ [entry]).countP (·.change.isLink)) ∧
      (∀ position owner, graph.block? position = some owner →
        graph.isVisited position ∧ owner.start = position) ∧
      graph.changeCounts =
        { created := graph.blocks.size
          linked := graph.edges.length
          skipped := (exchanges {} requests).countP isRefusal } ∧
      ∀ (before : Graph) (request : Request),
        (∀ new, (before.answer request).1 = .ok new → request.MetBy (before.answer request).2) ∧
        ∀ fault : Fault,
          ((before.answer request).1 = .error fault ↔
            (∃ start, request = .create start ∧ before.Owns start ∧
                fault = .blockPresent start) ∨
              ∃ start instruction, request = .append start instruction ∧ ¬before.Owns start ∧
                fault = .blockMissing start) ∧
          ((before.answer request).1 = .error fault → (before.answer request).2 = before) := by
  intro graph
  have logged : graph.Logged := logged_empty.answerAll requests
  refine ⟨⟨logged.distinct, logged.created⟩, logged.linked, logged.unrepeated, ?_, ?_, ?_, ?_⟩
  · intro earlier entry later split
    rw [← length_createdIn, ← length_linkedIn]
    exact logged.counted earlier entry later split
  · intro position owner found
    obtain ⟨isVisited, starts⟩ := logged.placed position owner found
    exact ⟨List.elem_eq_true_of_mem isVisited, starts⟩
  · have counts : graph.changeCounts =
        ⟨(createdIn graph.log).length, (linkedIn graph.log).length,
          graph.changeCounts.skipped⟩ := by
      rw [length_createdIn, length_linkedIn]
      rfl
    rw [counts, ← logged.size, logged.linked, skipped_answerAll]
    exact congrArg _ (Nat.zero_add _)
  · intro before request
    have comesTo := comesTo_answer before request
    exact ⟨fun _ => comesTo.metBy, fun _ => ⟨comesTo.eq_error_iff, comesTo.eq_of_error⟩⟩

/-- A block is opened behind its claim and led to by an edge that is asked for twice. A second
claim shows in the log; a second block does not. -/
theorem second_block_leaves_log :
    let home : Position := ⟨0x2000, 0x100⟩
    let edge : Edge := ⟨home, home, .flow⟩
    let requests := [.claim home, .create home, .link edge, .link edge, .claim home]
    let graph := answerAll {} requests
    graph.log =
        [⟨.blockCreated home, 1, 0⟩, ⟨.edgeLinked edge, 1, 1⟩, ⟨.visitSkipped home, 1, 1⟩] ∧
      createdIn graph.log = [home] ∧ linkedIn graph.log = graph.edges ∧
      graph.isVisited home ∧ graph.changeCounts = ⟨graph.blocks.size, graph.edges.length, 1⟩ ∧
      (graph.answer (.create home)).1 = .error (.blockPresent home) ∧
      (graph.answer (.create home)).2 = graph := by
  intro home edge requests graph
  obtain ⟨-, linked, -, -, placed, counts, unchanged⟩ := log_determines_graph requests
  have fails : (graph.answer (.create home)).1 = .error (.blockPresent home) := by rfl
  exact ⟨by rfl, by rfl, linked, (placed home _ (by rfl)).1, counts.trans (by rfl), fails,
    ((unchanged graph _).2 _).2 fails⟩

end Graph

end VmRecovery.Flow

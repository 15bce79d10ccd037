import VmRecovery.Proofs.Flow.Ownership
import VmRecovery.Proofs.Flow.SaveArea

/-!
# The edges that leave a block

An edge is not recorded where a block ends, but where a later job arrives at its first
instruction. What a block may lead to is therefore spread over the edges that are there, the jobs
that are queued behind it and the running job that has not arrived yet. Taken together these are
never more than the last instruction of the block allows (`Allots`), because a job queues at most
that many and gives up its place in the queue for one edge.
-/

namespace VmRecovery.Flow

open Handler Machine RecoveryM Trace

variable {σ : Type} {backend : Backend σ} {settings : Settings} {start stage stage' : Stage σ}
  {walk : Walk} {position block : Position} {instruction : Instruction} {kind : EdgeKind}

/-- How many edges of a kind may lead away from a block that ends with an operation. -/
def allowance (operation : Operation) : EdgeKind → Nat
  | .flow => continuations operation
  | .native =>
      match operation with
      | .exit _ => 1
      | _ => 0

/-- Nothing leads away from a block that goes on. -/
theorem GoesOn.allowance_eq_zero (goesOn : GoesOn instruction) :
    allowance instruction.operation kind = 0 := by
  obtain ⟨notInit, unending⟩ := goesOn
  cases kind <;> cases operation : instruction.operation <;>
    simp_all [allowance, continuations, Operation.isTerminal]

/-- What so many jobs may add to the edges of a kind: they arrive by edges that stay in the virtual
machine. -/
def due (jobs : Nat) : EdgeKind → Nat
  | .flow => jobs
  | .native => 0

/-- The dues of two groups of jobs add up. -/
theorem due_add (jobs further : Nat) :
    due (jobs + further) kind = due jobs kind + due further kind := by
  cases kind <;> rfl

namespace Graph

variable {graph grown : Graph}

/-- The edges of a kind that lead away from a position. -/
def leaving (graph : Graph) (kind : EdgeKind) (position : Position) : List Edge :=
  (graph.edgesFrom position).filter fun edge => edge.kind = kind

/-- How many edges of a kind may lead away from a position, by the instruction that its block ends
with so far. -/
def room (graph : Graph) (kind : EdgeKind) (position : Position) : Nat :=
  match (graph.block? position).bind Block.last? with
  | some last => allowance last.operation kind
  | none => 0

/-- What leaves a position depends on the edges only. -/
theorem leaving_of_sameEdges (same : grown.edges = graph.edges) (kind : EdgeKind)
    (position : Position) : grown.leaving kind position = graph.leaving kind position := by
  rw [leaving, leaving, edgesFrom, edgesFrom, same]

/-- A new edge counts for its own source and kind, and a known one for none. -/
theorem length_leaving_link (edge : Edge) :
    ((graph.link edge).2.leaving kind position).length ≤
      (graph.leaving kind position).length +
        if edge.source = position ∧ edge.kind = kind then 1 else 0 := by
  rw [leaving, leaving, edgesFrom, edgesFrom, edges_link]
  split
  · exact Nat.le_add_right _ _
  · rw [List.filter_append, List.filter_append, List.length_append]
    refine Nat.add_le_add_left ?_ _
    by_cases leaves : edge.source = position
    · by_cases same : edge.kind = kind
      · simp [leaves, same]
      · simp [leaves, same]
    · simp [leaves]

/-- The arrival of a job costs the block that it continues one edge that stays in the virtual
machine. -/
theorem length_leaving_arrive (source : Option Position) (target : Position) :
    ((graph.arrive source target).leaving kind position).length ≤
      (graph.leaving kind position).length +
        due (if source = some position then 1 else 0) kind := by
  cases source with
  | none => exact Nat.le_add_right _ _
  | some source =>
      refine (length_leaving_link _).trans (Nat.add_le_add_left ?_ _)
      cases kind <;> simp [due]

/-- The room at a position depends on the block there only. -/
theorem room_congr (same : grown.block? position = graph.block? position) :
    grown.room kind position = graph.room kind position := by
  rw [room, room, same]

/-- The instruction that a block ends with makes the room at its position. -/
theorem EndsWith.room_eq (ends : graph.EndsWith position instruction) :
    graph.room kind position = allowance instruction.operation kind := by
  obtain ⟨owner, found, last⟩ := ends
  rw [room, found, Option.bind_some, last]

/-- Nothing leads away from a block all of whose instructions go on. -/
theorem room_eq_zero_of_goesOn {owner : Block} (found : graph.block? position = some owner)
    (plain : ∀ instruction ∈ owner.instructions, GoesOn instruction) :
    graph.room kind position = 0 := by
  rw [room, found, Option.bind_some]
  split
  · rename_i last isLast
    exact (plain last (List.mem_of_getLast? isLast)).allowance_eq_zero
  · rfl

/-- The edges that lead away from each position, together with the jobs that will still arrive
from there, are no more than its block allows. -/
def Allots (graph : Graph) (pending : Position → Nat) : Prop :=
  ∀ kind position,
    (graph.leaving kind position).length + due (pending position) kind ≤ graph.room kind position

/-- With fewer jobs outstanding there is still room enough. -/
theorem Allots.mono {pending fewer : Position → Nat} (allots : graph.Allots pending)
    (less : ∀ position, fewer position ≤ pending position) : graph.Allots fewer := by
  intro kind position
  refine le_trans (Nat.add_le_add_left ?_ _) (allots kind position)
  cases kind with
  | flow => exact less position
  | native => exact le_rfl

end Graph

/-- How many queued jobs continue the block at a position. -/
def waiting (queue : List Job) (position : Position) : Nat :=
  queue.countP fun job => job.source = some position

/-- The jobs that are queued later wait together with the earlier ones. -/
@[simp] theorem waiting_append (queue jobs : List Job) :
    waiting (queue ++ jobs) position = waiting queue position + waiting jobs position :=
  List.countP_append

/-- The first job of a queue waits if it continues the block, and so do the others. -/
@[simp] theorem waiting_cons (job : Job) (queue : List Job) :
    waiting (job :: queue) position =
      waiting queue position + if job.source = some position then 1 else 0 := by
  simp [waiting, List.countP_cons]

/-- Whether a running job will still arrive from a position: it has not come to its first
instruction yet. -/
def Walk.arriving (walk : Walk) (position : Position) : Nat :=
  if walk.source = some position ∧ walk.block = none ∧
      (walk.phase = .seekingEntry ∨ walk.phase = .readingHandlers) then 1 else 0

/-- A job that has put an instruction into a block arrives nowhere any more. -/
theorem Walk.arriving_of_block {walk : Walk} {block : Position} (own : walk.block = some block)
    (position : Position) : walk.arriving position = 0 := by
  simp [Walk.arriving, own]

/-- A job that neither seeks an entry routine nor reads handlers arrives nowhere any more. -/
theorem Walk.arriving_of_inactive {walk : Walk}
    (inactive : ¬ (walk.phase = .seekingEntry ∨ walk.phase = .readingHandlers))
    (position : Position) : walk.arriving position = 0 := by
  rw [Walk.arriving, if_neg]
  rintro ⟨-, -, active⟩
  exact inactive active

/-- A job arrives once at most, and only from the block that it continues. -/
theorem Walk.arriving_le (walk : Walk) (position : Position) :
    walk.arriving position ≤ if walk.source = some position then 1 else 0 := by
  rw [Walk.arriving]
  split
  · rename_i continues
    rw [if_pos continues.1]
  · exact Nat.zero_le _

/-- Whether the running job, if there is one, will still arrive from a position. -/
def Activity.arriving (activity : Activity) (position : Position) : Nat :=
  match activity with
  | .running _ walk => walk.arriving position
  | _ => 0

/-- A job that is settled does not arrive any more. -/
@[simp] theorem Activity.arriving_settled (outcome : Except Fault Unit) :
    (Activity.settled outcome).arriving position = 0 := by
  cases outcome <;> rfl

/-! What a turn does to the edges. -/

/-- A turn that performs an instruction ends with the effect of that instruction. -/
theorem Performs.departs {state recorded : Recovery σ} {find : Find}
    (performs : Performs backend walk state find block recorded) (settings : Settings)
    (unfinished : walk.phase ≠ .finished) :
    Ends (turn backend settings walk) state
      (fun _ => Departure backend block find.instruction recorded)
      fun _ => Departure backend block find.instruction recorded := by
  obtain ⟨walk', middle, inspects, puts⟩ := performs
  exact ends_turn_of_effect unfinished inspects puts
    (applyEffect_departs backend settings walk' find.occurrence recorded)

/-- A job that has come to its first instruction gives up its place for at most one edge. -/
theorem length_leaving_of_fresh {graph : Graph} (fresh : walk.block = none)
    (active : walk.phase = .seekingEntry ∨ walk.phase = .readingHandlers) (target : Position) :
    ((graph.arrive walk.source target).leaving kind position).length ≤
      (graph.leaving kind position).length +
        due (walk.arriving position) kind := by
  rw [Walk.arriving]
  simp only [fresh, active, and_true]
  exact Graph.length_leaving_arrive walk.source target

/-- Nothing becomes more where a job arrives and no block changes. -/
theorem Graph.Allots.arrive {graph grown : Graph} {queued : Position → Nat} {target : Position}
    (allots : graph.Allots fun position => queued position + walk.arriving position)
    (fresh : walk.block = none)
    (active : walk.phase = .seekingEntry ∨ walk.phase = .readingHandlers)
    (sameEdges : grown.edges = (graph.arrive walk.source target).edges)
    (sameBlocks : ∀ position, grown.block? position = graph.block? position) :
    grown.Allots queued := by
  intro kind position
  have before := allots kind position
  have arrived := @length_leaving_of_fresh _ position kind graph fresh active target
  rw [due_add] at before
  rw [Graph.leaving_of_sameEdges sameEdges, Graph.room_congr (sameBlocks position)]
  omega

/-- Nothing may lead away from a block that an instruction is yet to be put into. -/
theorem Recorded.room_eq_zero {graph grown : Graph}
    (put : Recorded walk instruction graph (some block) grown)
    (active : walk.phase = .seekingEntry ∨ walk.phase = .readingHandlers)
    (isOpen : walk.Open graph) : graph.room kind block = 0 := by
  cases put with
  | opens fresh free creates grows =>
      obtain ⟨-, rfl⟩ := Graph.claim_eq_true free
      obtain ⟨absent, -⟩ := Graph.createBlock_eq_ok creates
      have none : graph.block? instruction.position = none :=
        (Graph.block?_arrive walk.source instruction.position).symm.trans absent
      rw [Graph.room, none, Option.bind_none]
  | appends own grows =>
      have reading : walk.phase = .readingHandlers :=
        active.resolve_left fun seeking => by simp [isOpen.seeks seeking] at own
      obtain ⟨owner, found, -⟩ := Graph.appendInstruction_eq_ok grows
      exact Graph.room_eq_zero_of_goesOn found (isOpen.reads reading block owner own found)

/-- Putting an instruction into a block leaves nothing that leads away from the block. What was
to arrive from another block has become an edge. -/
theorem Recorded.allots {graph grown : Graph} {queued : Position → Nat}
    (put : Recorded walk instruction graph (some block) grown)
    (active : walk.phase = .seekingEntry ∨ walk.phase = .readingHandlers)
    (isOpen : walk.Open graph)
    (allots : graph.Allots fun position => queued position + walk.arriving position) :
    ∀ kind position, (grown.leaving kind position).length + due (queued position) kind ≤
      if block = position then 0 else grown.room kind position := by
  have arrives : ∀ kind position, (grown.leaving kind position).length ≤
      (graph.leaving kind position).length + due (walk.arriving position) kind := by
    intro kind position
    cases put with
    | opens fresh free creates grows =>
        have opened := GraphEdit.opened_of_free free creates grows
        rw [Graph.leaving_of_sameEdges opened.edges]
        exact length_leaving_of_fresh fresh active _
    | appends own grows =>
        obtain ⟨owner, -, rfl⟩ := Graph.appendInstruction_eq_ok grows
        exact Nat.le_add_right _ _
  intro kind position
  have within : (grown.leaving kind position).length + due (queued position) kind ≤
      graph.room kind position := by
    have before := allots kind position
    have later := arrives kind position
    rw [due_add] at before
    omega
  split
  · rename_i same
    subst same
    rwa [put.room_eq_zero active isOpen] at within
  · rename_i other
    rwa [Graph.room_congr (put.others other)]

/-- A graph in which nothing led away from a block stays within bounds if no more leads away from
there than its last instruction allows. -/
theorem Graph.allots_of_block {graph grown : Graph} {queued pending : Position → Nat}
    {last : Instruction}
    (allots : ∀ kind position, (graph.leaving kind position).length + due (queued position) kind ≤
      if block = position then 0 else graph.room kind position)
    (ends : grown.EndsWith block last)
    (others : ∀ position, block ≠ position → grown.block? position = graph.block? position)
    (adds : ∀ kind position, (grown.leaving kind position).length + due (pending position) kind ≤
      (graph.leaving kind position).length + due (queued position) kind +
        if block = position then allowance last.operation kind else 0) :
    grown.Allots pending := by
  intro kind position
  have before := allots kind position
  have added := adds kind position
  by_cases same : block = position
  · subst same
    rw [if_pos rfl] at before added
    rw [ends.room_eq]
    omega
  · rw [if_neg same] at before added
    rw [Graph.room_congr (others position same)]
    omega

/-- Jobs that resume behind a block wait for this block only. -/
theorem waiting_le_of_resuming {jobs : List Job} {bound : Nat} (few : jobs.length ≤ bound)
    (resuming : ∀ job ∈ jobs, ∃ snapshot, job = .resuming snapshot block) :
    waiting jobs position ≤ if block = position then bound else 0 := by
  split
  · exact List.countP_le_length.trans few
  · rename_i other
    refine (List.countP_eq_zero.mpr fun job member => ?_).le
    obtain ⟨snapshot, rfl⟩ := resuming job member
    simpa [Job.resuming] using other

/-- The effect of an instruction leads away from its block no more often than the instruction
allows. -/
theorem Departure.allots {state after : Recovery σ}
    (departs : Departure backend block instruction state after)
    (ends : state.graph.EndsWith block instruction)
    (allots : ∀ kind position, (state.graph.leaving kind position).length +
      due (waiting state.queue position) kind ≤
        if block = position then 0 else state.graph.room kind position) :
    after.graph.Allots (waiting after.queue) := by
  have others : ∀ position, block ≠ position →
      after.graph.block? position = state.graph.block? position :=
    fun _ => departs.follows.others
  cases departs with
  | resumes within =>
      obtain ⟨session, selection, jobs, ⟨few, resuming⟩, rfl⟩ := within
      refine Graph.allots_of_block allots ends others fun kind position => ?_
      have added : due (waiting jobs position) kind ≤
          if block = position then allowance instruction.operation kind else 0 := by
        cases kind with
        | flow => exact waiting_le_of_resuming few resuming
        | native => exact Nat.zero_le _
      rw [waiting_append, due_add, ← Nat.add_assoc]
      exact Nat.add_le_add_left added _
  | @leaves restored target session isExit isSet isUnknown =>
      refine Graph.allots_of_block allots (ends.link _) others fun kind position => ?_
      have linked := @Graph.length_leaving_link position kind state.graph
        { source := block, target := .ofNative target, kind := .native }
      have added : (if block = position ∧ EdgeKind.native = kind then 1 else 0) ≤
          if block = position then allowance instruction.operation kind else 0 := by
        cases kind <;> simp [allowance, isExit]
      dsimp only at linked ⊢
      omega
  | @calls restored target address grown session isExit grows =>
      obtain ⟨owner, -, rfl⟩ := Graph.appendInstruction_eq_ok grows
      refine Graph.allots_of_block allots (Graph.endsWith_of_appendInstruction grows) others
        fun kind position => ?_
      have added : due (waiting [.entering address (some block)] position) kind ≤
          if block = position then allowance (.exitCall target) kind else 0 := by
        cases kind <;> simp [waiting, Job.entering, due, allowance, continuations]
      rw [waiting_append, due_add, ← Nat.add_assoc]
      exact Nat.add_le_add_left added _

/-- A turn leads away from each block no more often than its last instruction allows. -/
theorem Course.allots {state after : Recovery σ} {walk? : Option Walk}
    (course : Course backend settings walk state walk? after)
    (departs : ∀ {find block recorded}, Performs backend walk state find block recorded →
      Departure backend block find.instruction recorded after)
    (isOpen : walk.Open state.graph)
    (allots : state.graph.Allots fun position =>
      waiting state.queue position + walk.arriving position) :
    after.graph.Allots fun position =>
      waiting after.queue position + walk?.elim 0 fun walk' => walk'.arriving position := by
  cases course with
  | @passes walk? after inspected kept goesOn =>
      rw [inspected.sameGraph, inspected.sameQueue]
      refine allots.mono fun position => Nat.add_le_add_left ?_ _
      cases isNext : walk? with
      | none => exact Nat.zero_le _
      | some walk' =>
          obtain ⟨walker, rfl⟩ := goesOn walk' isNext
          exact le_rfl
  | @stalls find middle graph session inspected reads stalled =>
      rw [← inspected.sameQueue] at allots
      cases stalled with
      | misses => exact allots.mono fun position => Nat.le_add_right _ _
      | claims fresh free present =>
          obtain ⟨-, rfl⟩ := Graph.claim_eq_true free
          exact allots.arrive fresh reads.active rfl fun position => Graph.block?_arrive _ _
  | @revisits find middle graph session walker inspected reads put =>
      rw [← inspected.sameQueue] at allots
      cases put with
      | revisits fresh taken =>
          obtain ⟨-, rfl⟩ := Graph.claim_eq_false taken
          -- The edge takes the room that was kept for the arrival of the job.
          have arrived := allots.arrive fresh reads.active rfl fun position =>
            Graph.block?_arrive walk.source find.instruction.position
          have gone : ∀ position, Walk.arriving { walk with
              walker, phase := phaseAfter settings .finished find.instruction } position = 0 :=
            Walk.arriving_of_inactive not_active_of_finished
          simp only [Option.elim, gone, Nat.add_zero]
          exact arrived
  | @performs find block recorded after walk? performs follows goesOn =>
      have performed := performs.performed
      rw [← performed.sameQueue] at allots
      have put := performed.put.allots performed.reads.active isOpen allots
      have arrived : ∀ position, (walk?.elim 0 fun walk' => walk'.arriving position) = 0 := by
        intro position
        cases isNext : walk? with
        | none => rfl
        | some walk' =>
            obtain ⟨walker, rfl⟩ := goesOn walk' isNext
            exact Walk.arriving_of_block rfl position
      simp only [arrived, Nat.add_zero]
      exact (departs performs).allots performed.put.endsWith put

/-- Native code that is left for is there, and is not known to enter the virtual machine. -/
def Graph.LeadsOut (backend : Backend σ) (graph : Graph) : Prop :=
  ∀ edge ∈ graph.edges, edge.kind = .native →
    ∃ target, edge.target = .ofNative target ∧ target ≠ 0 ∧ backend.isKnownEntry target = false

/-- A job that arrives does not leave the virtual machine. -/
theorem Graph.LeadsOut.arrive {graph grown : Graph} {source : Option Position} {target : Position}
    (leadsOut : graph.LeadsOut backend)
    (sameEdges : grown.edges = (graph.arrive source target).edges) : grown.LeadsOut backend := by
  intro edge member isNative
  rw [sameEdges] at member
  rcases Graph.mem_edges_arrive.mp member with known | ⟨isFlow, -, -⟩
  · exact leadsOut edge known isNative
  · exact absurd (isFlow.symm.trans isNative) (by simp)

/-- A job that records an instruction adds no edge to native code. -/
theorem Recorded.leadsOut {graph grown : Graph} {block? : Option Position}
    (put : Recorded walk instruction graph block? grown)
    (leadsOut : graph.LeadsOut backend) :
    grown.LeadsOut backend := by
  cases put with
  | opens fresh free creates grows =>
      exact leadsOut.arrive (GraphEdit.opened_of_free free creates grows).edges
  | appends own grows =>
      obtain ⟨owner, -, rfl⟩ := Graph.appendInstruction_eq_ok grows
      exact leadsOut
  | revisits fresh taken =>
      obtain ⟨-, rfl⟩ := Graph.claim_eq_false taken
      exact leadsOut.arrive rfl

/-- A departure adds an edge to native code only for a target that is set and not known as an entry.
-/
theorem Departure.leadsOut {state after : Recovery σ}
    (departs : Departure backend block instruction state after)
    (leadsOut : state.graph.LeadsOut backend) :
    after.graph.LeadsOut backend := by
  cases departs with
  | resumes within =>
      obtain ⟨session, selection, jobs, -, rfl⟩ := within
      exact leadsOut
  | leaves isExit isSet isUnknown =>
      intro edge member isNative
      rcases Graph.mem_edges_link.mp member with known | rfl
      · exact leadsOut edge known isNative
      · exact ⟨_, rfl, isSet, isUnknown⟩
  | calls isExit grows =>
      obtain ⟨owner, -, rfl⟩ := Graph.appendInstruction_eq_ok grows
      exact leadsOut

/-- A turn leaves the virtual machine only for native code that is not known to enter it. -/
theorem Course.leadsOut {state after : Recovery σ} {walk? : Option Walk}
    (course : Course backend settings walk state walk? after)
    (departs : ∀ {find block recorded}, Performs backend walk state find block recorded →
      Departure backend block find.instruction recorded after)
    (leadsOut : state.graph.LeadsOut backend) :
    after.graph.LeadsOut backend := by
  cases course with
  | passes inspected kept goesOn => rwa [inspected.sameGraph]
  | stalls inspected reads stalled =>
      cases stalled with
      | misses => exact leadsOut
      | claims fresh free present =>
          obtain ⟨-, rfl⟩ := Graph.claim_eq_true free
          exact leadsOut.arrive rfl
  | revisits inspected reads put => exact put.leadsOut leadsOut
  | performs performs follows goesOn =>
      exact (departs performs).leadsOut (performs.performed.put.leadsOut leadsOut)

/-! Runs. -/

/-- What holds of the edges at every stage of a run. -/
structure Bounded (backend : Backend σ) (stage : Stage σ) : Prop where
  allots : stage.state.graph.Allots fun position =>
    waiting stage.state.queue position + stage.activity.arriving position
  leadsOut : stage.state.graph.LeadsOut backend

namespace Bounded

/-- A stage with the graph of the one before stays within bounds if no more is to arrive. -/
theorem of_sameGraph (bounded : Bounded backend stage)
    (same : stage'.state.graph = stage.state.graph)
    (fewer : ∀ position,
      waiting stage'.state.queue position + stage'.activity.arriving position ≤
        waiting stage.state.queue position + stage.activity.arriving position) :
    Bounded backend stage' where
  allots := same ▸ bounded.allots.mono fewer
  leadsOut := same ▸ bounded.leadsOut

/-- No step exceeds the allowance: an arrival is given up for its edge, and an effect queues no more
jobs than its instruction allows. -/
theorem advance (bounded : Bounded backend stage)
    (isOpen : ∀ job walk, stage.activity = .running job walk → walk.Open stage.state.graph)
    (advance : Advance backend settings stage stage') : Bounded backend stage' := by
  cases advance with
  | requests =>
      refine bounded.of_sameGraph rfl fun position => ?_
      simp [waiting, Job.entering, Activity.arriving]
  | launches queued allowed launched =>
      obtain ⟨steps, session, rfl, rfl⟩ := (launch_ends backend settings _ _).of_ok launched
      refine bounded.of_sameGraph rfl fun position => ?_
      rw [queued, waiting_cons]
      exact Nat.add_le_add_left (Walk.arriving_le _ position) _
  | stumbles queued allowed launched settled =>
      obtain ⟨session, rfl⟩ := (launch_ends backend settings _ _).of_error launched
      obtain ⟨session, report, rfl⟩ := accounted_of_settled settled
      refine bounded.of_sameGraph rfl fun position => ?_
      rw [queued, waiting_cons, Activity.arriving_settled]
      exact Nat.add_le_add_right (Nat.le_add_right _ _) _
  | @turns entries state after job walk walk' unfinished turned =>
      have course := (turn_course backend settings state unfinished).of_ok turned
      have departs : ∀ {find block recorded}, Performs backend walk state find block recorded →
          Departure backend block find.instruction recorded after :=
        fun performs => (performs.departs settings unfinished).of_ok turned
      exact ⟨course.allots departs (isOpen job walk rfl) bounded.allots,
        course.leadsOut departs bounded.leadsOut⟩
  | @fails entries state failed after job walk fault outcome unfinished turned settled =>
      have course := (turn_course backend settings state unfinished).of_error turned
      have departs : ∀ {find block recorded}, Performs backend walk state find block recorded →
          Departure backend block find.instruction recorded failed :=
        fun performs => (performs.departs settings unfinished).of_error turned
      obtain ⟨session, report, rfl⟩ := accounted_of_settled settled
      refine ⟨?_, course.leadsOut departs bounded.leadsOut⟩
      simpa using course.allots departs (isOpen job walk rfl) bounded.allots
  | completes finished settled =>
      obtain ⟨session, report, rfl⟩ := accounted_of_settled settled
      exact bounded.of_sameGraph rfl fun position => by simp
  | @concludes entries state exhausted =>
      obtain ⟨session, report, ends⟩ := accounted_conclude backend settings state
      rw [ends]
      exact bounded.of_sameGraph rfl fun position => by simp [Activity.arriving]

/-- The edges and the outstanding jobs stay within the allowance at every moment of a run. -/
theorem runs (bounded : Bounded backend start) (shapely : Shapely backend settings start start)
    (runs : Runs backend settings start stage) : Bounded backend stage := by
  induction runs with
  | refl => exact bounded
  | tail earlier advance inductionHypothesis =>
      exact inductionHypothesis.advance (shapely.runs earlier).isOpen advance

/-- At first there are neither edges nor jobs. -/
theorem initial (backend : Backend σ) (host : σ) (cache : Cache) (entries : List UInt64) :
    Bounded backend ⟨.waiting, entries, .initial host cache⟩ where
  allots := by
    intro kind position
    cases kind <;> exact Nat.zero_le _
  leadsOut := by simp [Graph.LeadsOut, Recovery.initial]

end Bounded

/-- A block with the shape of a recovered one has a last instruction. -/
theorem Block.Shaped.ends {owner : Block} (shaped : owner.Shaped) :
    ∃ last, owner.last? = some last := by
  refine Option.isSome_iff_exists.mp (List.getLast?_isSome.mpr ?_)
  cases shaped with
  | entry only starts enters spilled lies => simp [only]
  | handlers split starts plain ends =>
      intro empty
      simp [empty] at starts

/-- After any recoveries, and at every moment of them, a block has at most as many edges of either
kind as its last instruction allows. An edge into native code leads to code that is there and is
not known to enter the virtual machine. -/
theorem terminator_bounds_edges (backend : Backend σ) (settings : Settings) (host : σ)
    (cache : Cache) (entries : List UInt64) :
    let start : Stage σ := ⟨.waiting, entries, .initial host cache⟩
    Runs backend settings start
        ⟨.waiting, [], recoverEach backend settings entries (.initial host cache)⟩ ∧
      ∀ stage, Runs backend settings start stage →
        ∀ position owner, stage.state.graph.block? position = some owner →
          ∃ last, owner.last? = some last ∧
            (∀ kind, (stage.state.graph.leaving kind position).length ≤
              allowance last.operation kind) ∧
            ∀ edge ∈ stage.state.graph.leaving .native position,
              ∃ target, edge.target = .ofNative target ∧ target ≠ 0 ∧
                backend.isKnownEntry target = false := by
  intro start
  refine ⟨runs_recoverEach entries _, fun stage runs position owner found => ?_⟩
  have shapely := Shapely.initial backend settings host cache entries
  have bounded := (Bounded.initial backend host cache entries).runs shapely runs
  obtain ⟨last, isLast⟩ := ((shapely.runs runs).shaped position owner found).2.ends
  refine ⟨last, isLast, fun kind => ?_, fun edge member => ?_⟩
  · have within := bounded.allots kind position
    rw [Graph.EndsWith.room_eq ⟨owner, found, isLast⟩] at within
    omega
  · rw [Graph.leaving, Graph.edgesFrom, List.mem_filter, List.mem_filter] at member
    exact bounded.leadsOut edge member.1.1 (by simpa using member.2)

section Witness

open Simulation

set_option maxRecDepth 2000

/-- The operations of the block at the jump that goes two ways, and the targets of its edges. -/
def twoWayJump (graph : Graph) : Option (List Operation) × List Position :=
  ((graph.block? { native := 0x30, vm := 0x104 }).map fun owner =>
      owner.instructions.map Instruction.operation,
    (graph.edgesFrom { native := 0x30, vm := 0x104 }).map Edge.target)

/-- A jump that goes two ways leads to two blocks, which is all that it may do. -/
theorem two_way_jump_exhausts_bound :
    ∃ owner last, (alternatingStage 13).state.graph.block? { native := 0x30, vm := 0x104 } =
        some owner ∧
      owner.last? = some last ∧ last.operation = .jmp ∧
      ((alternatingStage 13).state.graph.edgesFrom { native := 0x30, vm := 0x104 }).map
          Edge.target = [⟨0x40, 0⟩, ⟨0x50, 0⟩] ∧
      ((alternatingStage 13).state.graph.leaving .flow { native := 0x30, vm := 0x104 }).length ≤
        2 ∧
      ((alternatingStage 13).state.graph.leaving .native { native := 0x30, vm := 0x104 }).length =
        0 := by
  have computed : twoWayJump (alternatingStage 13).state.graph =
      (some [.popReg 16 revealed, .jmp], [⟨0x40, 0⟩, ⟨0x50, 0⟩]) := by
    cbv
  obtain ⟨jumps, leads⟩ := Prod.ext_iff.mp computed
  obtain ⟨owner, found, operations⟩ := Option.map_eq_some_iff.mp jumps
  obtain ⟨-, bounds⟩ := terminator_bounds_edges alternatingEntries.backend {} {} {} [0x10]
  obtain ⟨last, isLast, bound, -⟩ := bounds _ (runs_alternatingStage 13) _ owner found
  have isJump : last.operation = .jmp := by
    have last? : (owner.instructions.map Instruction.operation).getLast? = some last.operation := by
      rw [List.getLast?_map, ← Block.last?, isLast, Option.map_some]
    rw [operations] at last?
    exact (Option.some.inj last?).symm
  rw [isJump] at bound
  exact ⟨owner, last, found, isLast, isJump, leads, bound .flow, Nat.le_zero.mp (bound .native)⟩

end Witness

end VmRecovery.Flow

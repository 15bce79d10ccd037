import VmRecovery.Proofs.Document.Cache
import VmRecovery.Proofs.Flow.Reuse
import VmRecovery.Proofs.Flow.Stage
import VmRecovery.Proofs.Flow.Tally
import VmRecovery.Proofs.Simulation.Handlers
import VmRecovery.Simulation.Backend

/-!
# Starting from a saved cache

A recovery whose collaborators are stateless recovers the same code when it is repeated with the
cache that it has saved, if it had stored every pattern when it first read a handler of its range
(`saved_cache_keeps_code`). A handler that is recognised only after it has been read without being
recognised is read as a different instruction the second time.
-/

namespace VmRecovery.Flow

open Handler Machine RecoveryM Trace

variable {σ : Type} {backend : Backend σ} {settings : Settings} {saved : Cache}
  {stage stage' start : Stage σ} {warm : Recovery σ}

/-! Patterns that are known stay known. -/

/-- A job keeps all patterns of the cache. -/
theorem Edits.cache_within {walk : Walk} {state after : Recovery σ}
    (edits : Edits walk state after) : state.cache.Within after.cache := by
  induction edits with
  | refl => exact .refl _
  | tail _ edit inductionHypothesis =>
      refine inductionHypothesis.trans ?_
      cases edit with
      | looksUp range =>
          obtain ⟨hits, misses, looked⟩ := Cache.lookup_eq _ range
          rw [looked]
          exact .refl _
      | stores pattern absent => exact Cache.within_insert absent
      | _ => exact .refl _

/-- Noting and counting leaves the cache as it is. -/
theorem Accounted.cache_eq {state after : Recovery σ} (accounted : Accounted state after) :
    after.cache = state.cache := by
  obtain ⟨session, report, rfl⟩ := accounted
  rfl

/-- A step of a run keeps all patterns of the cache. -/
theorem Advance.cache_within (advance : Advance backend settings stage stage') :
    stage.state.cache.Within stage'.state.cache := by
  cases advance.transition with
  | turns _ edits => exact edits.cache_within
  | fails _ edits accounted => exact accounted.cache_eq ▸ edits.cache_within
  | completes accounted => exact accounted.cache_eq ▸ .refl _
  | concludes accounted => exact accounted.cache_eq ▸ .refl _
  | _ => exact .refl _

/-- A run keeps all patterns of the cache. -/
theorem Runs.cache_within (runs : Runs backend settings stage stage') :
    stage.state.cache.Within stage'.state.cache := by
  induction runs with
  | refl => exact .refl _
  | tail _ advance inductionHypothesis => exact inductionHypothesis.trans advance.cache_within

/-! Advancing with a saved cache. -/

/-- The range that the running job asks the cache for in its next turn. -/
def Stage.asksFor? (stage : Stage σ) : Option HandlerRange :=
  match stage.activity with
  | .running _ walk => Flow.asksFor? walk stage.state.grouping
  | _ => none

/-- Whenever a job has read a handler, its pattern is known if it will ever be saved. -/
def StoredWhenRead (backend : Backend σ) (settings : Settings) (start : Stage σ)
    (saved : Cache) : Prop :=
  ∀ stage stage', Runs backend settings start stage → Advance backend settings stage stage' →
    ∀ range ∈ stage.asksFor?, saved.knows range = true → stage'.state.cache.knows range = true

/-- Checks along so many advances, up to the end of the run, that patterns are stored when they
are read. -/
def Stage.storesThrough (backend : Backend σ) (settings : Settings) (saved : Cache) :
    Nat → Stage σ → Bool
  | 0, _ => false
  | count + 1, stage =>
      match stage.next? backend settings with
      | none => true
      | some next =>
          stage.asksFor?.all (fun range => !saved.knows range || next.state.cache.knows range) &&
            next.storesThrough backend settings saved count

/-- What the check finds along the steps to the end of a run holds of the run. -/
theorem storedWhenRead_of_storesThrough {count : Nat}
    (checked : start.storesThrough backend settings saved count = true) :
    StoredWhenRead backend settings start saved := by
  induction count generalizing start with
  | zero => cases checked
  | succ count inductionHypothesis =>
      intro stage stage' runs advance range asks isSaved
      rw [Stage.storesThrough] at checked
      rcases Relation.ReflTransGen.cases_head runs with rfl | ⟨next, first, rest⟩
      · rw [advance_iff.mp advance] at checked
        have all := (Bool.and_eq_true_iff.mp checked).1
        rw [Option.mem_def.mp asks] at all
        simpa [isSaved] using all
      · rw [advance_iff.mp first] at checked
        have checkedRest := (Bool.and_eq_true_iff.mp checked).2
        exact inductionHypothesis checkedRest stage stage' rest advance range asks isSaved

/-- An action that ends the same with saved patterns has the same outcome. -/
theorem Reuses.run_eq {α : Type} {action : RecoveryM σ α} {state after : Recovery σ}
    {outcome : Except Fault α} (reuses : Reuses saved action state) (isWarm : Warm saved state warm)
    (ran : action.run.run state = (outcome, after)) :
    ∃ warm', Warm saved after warm' ∧ action.run.run warm = (outcome, warm') := by
  obtain ⟨same, isWarm'⟩ := reuses warm isWarm
  rw [ran] at same isWarm'
  exact ⟨_, isWarm', Prod.ext same rfl⟩

/-- The end of a recovery counts the uses of the cache, which are not the same with a saved one. -/
theorem warm_conclude (backend : Backend σ) (settings : Settings) {state : Recovery σ}
    (isWarm : Warm saved state warm) :
    Warm saved ((conclude backend settings).run.run state).2
      ((conclude backend settings).run.run warm).2 := by
  have drained : Blind (drain backend settings 0) := by
    refine .read (fun _ _ => rfl) fun state => ?_
    dsimp only
    split
    · exact .note _
    · exact .pure _
  rcases ran : (drain backend settings 0).run.run state with ⟨outcome, after⟩
  obtain ⟨warm', isWarm', ran'⟩ := (drained.reuses saved state).run_eq isWarm ran
  rw [conclude, run_run_bind, run_run_bind, ran, ran']
  cases outcome with
  | error fault => exact isWarm'
  | ok answer =>
      obtain ⟨backdrop, rfl, same⟩ := isWarm'
      exact ⟨⟨(finish.run.run (after.over backdrop)).2.session, backdrop.cache,
        backdrop.cache.hits, backdrop.cache.misses⟩, rfl, same⟩

/-- Another queue in both recoveries leaves the one as far as the other. -/
theorem warm_queue {state : Recovery σ} (isWarm : Warm saved state warm) (queue : List Job) :
    Warm saved { state with queue } { warm with queue } := by
  obtain ⟨backdrop, rfl, same⟩ := isWarm
  exact ⟨backdrop, rfl, same⟩

/-- A recovery with a saved cache advances like the other one as long as the other one stores
every pattern when it reads a handler of its range. -/
theorem Advance.reuses (stateless : backend.IsStateless)
    (advance : Advance backend settings stage stage')
    (within : stage'.state.cache.Within saved)
    (stored : ∀ range ∈ stage.asksFor?, saved.knows range = true →
      stage'.state.cache.knows range = true)
    (isWarm : Warm saved stage.state warm) :
    ∃ warm', Warm saved stage'.state warm' ∧
      Advance backend settings { stage with state := warm } { stage' with state := warm' } := by
  cases advance with
  | requests =>
      obtain ⟨backdrop, rfl, same⟩ := isWarm
      exact ⟨_, ⟨backdrop, rfl, same⟩, .requests⟩
  | @launches _ _ _ job queue _ queued allowed launched =>
      obtain ⟨warm', isWarm', launched'⟩ := ((Blind.launch stateless settings job).reuses saved
        _).run_eq (warm_queue isWarm queue) launched
      obtain ⟨backdrop, rfl, -⟩ := isWarm
      exact ⟨warm', isWarm', .launches queued allowed launched'⟩
  | @stumbles _ _ _ _ job queue _ _ queued allowed launched settled =>
      obtain ⟨failed', isFailed, launched'⟩ := ((Blind.launch stateless settings job).reuses saved
        _).run_eq (warm_queue isWarm queue) launched
      obtain ⟨warm', isWarm', settled'⟩ :=
        ((Blind.settle _).reuses saved _).run_eq isFailed settled
      obtain ⟨backdrop, rfl, -⟩ := isWarm
      exact ⟨warm', isWarm', .stumbles queued allowed launched' settled'⟩
  | turns unfinished turned =>
      have reuses := turn_reuses stateless unfinished
        (by rw [turned]; exact within) (by rw [turned]; exact stored)
      obtain ⟨warm', isWarm', turned'⟩ := reuses.run_eq isWarm turned
      exact ⟨warm', isWarm', .turns unfinished turned'⟩
  | fails unfinished turned settled =>
      have kept := (accounted_of_settled settled).cache_eq
      rw [kept] at within stored
      have reuses := turn_reuses stateless unfinished
        (by rw [turned]; exact within) (by rw [turned]; exact stored)
      obtain ⟨failed', isFailed, turned'⟩ := reuses.run_eq isWarm turned
      obtain ⟨warm', isWarm', settled'⟩ :=
        ((Blind.settle _).reuses saved _).run_eq isFailed settled
      exact ⟨warm', isWarm', .fails unfinished turned' settled'⟩
  | completes finished settled =>
      obtain ⟨warm', isWarm', settled'⟩ :=
        ((Blind.settle _).reuses saved _).run_eq isWarm settled
      exact ⟨warm', isWarm', .completes finished settled'⟩
  | concludes exhausted =>
      refine ⟨_, warm_conclude backend settings isWarm, .concludes ?_⟩
      obtain ⟨backdrop, rfl, -⟩ := isWarm
      exact exhausted

/-- So does every run. -/
theorem Runs.reuses (stateless : backend.IsStateless)
    (within : ∀ stage, Runs backend settings start stage → stage.state.cache.Within saved)
    (stored : StoredWhenRead backend settings start saved) (isWarm : Warm saved start.state warm)
    (runs : Runs backend settings start stage) :
    ∃ warm', Warm saved stage.state warm' ∧
      Runs backend settings { start with state := warm } { stage with state := warm' } := by
  induction runs with
  | refl => exact ⟨warm, isWarm, .refl⟩
  | tail runs advance inductionHypothesis =>
      obtain ⟨middle, isMiddle, runs'⟩ := inductionHypothesis
      obtain ⟨warm', isWarm', advance'⟩ := advance.reuses stateless
        (within _ (runs.tail advance)) (stored _ _ runs advance) isMiddle
      exact ⟨warm', isWarm', runs'.tail advance'⟩

/-- Of two stages that a run comes to, one lies behind the other. -/
theorem Runs.total (runs : Runs backend settings start stage)
    (runs' : Runs backend settings start stage') :
    Runs backend settings stage stage' ∨ Runs backend settings stage' stage :=
  Relation.ReflTransGen.total_of_right_unique (fun _ _ _ => Advance.deterministic) runs runs'

/-- A run that has ended has passed through all its stages. -/
theorem runs_to_end {last : Stage σ} (ended : last.next? backend settings = none)
    (ends : Runs backend settings start last) (runs : Runs backend settings start stage) :
    Runs backend settings stage last := by
  rcases ends.total runs with past | before
  · rcases Relation.ReflTransGen.cases_head past with rfl | ⟨next, advance, -⟩
    · exact .refl
    · rw [advance_iff, ended] at advance
      cases advance
  · exact before

/-- A run ends at one stage only. -/
theorem Runs.end_unique {last : Stage σ} (ends : Runs backend settings start stage)
    (ended : stage.next? backend settings = none) (ends' : Runs backend settings start last)
    (ended' : last.next? backend settings = none) : stage = last := by
  rcases Relation.ReflTransGen.cases_head (runs_to_end ended' ends' ends)
    with same | ⟨_, advance, -⟩
  · exact same
  · rw [advance_iff, ended] at advance
    cases advance

/-- A recovery with stateless collaborators that is repeated with its saved cache recovers the
same code and completes like the first one, if the first one stored every pattern when it read a
handler of its range. -/
theorem saved_cache_keeps_code (stateless : backend.IsStateless) {entry : UInt64} {host : σ}
    (host' : σ) {report : Report} {state : Recovery σ}
    (recovered : (recoverFrom backend settings entry).run.run (.initial host {}) =
      (.ok report, state))
    (stored : StoredWhenRead backend settings ⟨.waiting, [entry], .initial host {}⟩ state.cache) :
    ∃ loaded report' state', Cache.ofDocument state.cache.document = .ok loaded ∧
      (recoverFrom backend settings entry).run.run (.initial host' loaded) =
        (.ok report', state') ∧
      state'.graph = state.graph := by
  let start : Stage σ := ⟨.waiting, [entry], .initial host {}⟩
  let last : Stage σ := ⟨.waiting, [], state⟩
  let loaded := Cache.ofEntries state.cache.entries
  have ends : Runs backend settings start last := by
    have runs : Runs backend settings start
        ⟨.waiting, [], ((recoverFrom backend settings entry).run.run (.initial host {})).2⟩ :=
      runs_recoverFrom entry _
    rwa [recovered] at runs
  have within : ∀ stage, Runs backend settings start stage →
      stage.state.cache.Within state.cache := by
    intro stage runs
    have further : Runs backend settings stage last := runs_to_end rfl ends runs
    exact further.cache_within
  have isWarm : Warm state.cache start.state (.initial host' loaded) :=
    ⟨⟨{ host := host' }, loaded, 0, 0⟩, rfl, Cache.patterns_ofEntries_entries state.cache⟩
  obtain ⟨warm, isWarm', ends'⟩ := ends.reuses stateless within stored isWarm
  have runs' : Runs backend settings ⟨.waiting, [entry], .initial host' loaded⟩
      ⟨.waiting, [], ((recoverFrom backend settings entry).run.run (.initial host' loaded)).2⟩ :=
    runs_recoverFrom entry _
  rcases ran : (recoverFrom backend settings entry).run.run (.initial host' loaded)
    with ⟨outcome, state'⟩
  rw [ran] at runs'
  -- Two runs that have come to an end have come to the same one.
  obtain rfl : warm = state' := congrArg Stage.state (ends'.end_unique rfl runs' rfl)
  obtain ⟨backdrop, rfl, -⟩ := isWarm'
  -- The counters agree as well, and they tell whether a recovery was given up.
  have counted := ((recoverFrom_tallies entry (uncounted_initial _ _)).of_ok recovered).2
  cases outcome with
  | ok report' => exact ⟨loaded, report', _, Cache.ofDocument_document _, ran, rfl⟩
  | error fault =>
      have uncounted := (recoverFrom_tallies entry (uncounted_initial _ _)).of_error ran
      exact absurd (counted.symm.trans uncounted) (Nat.succ_ne_self _).symm

section Witness

open Simulation

/-- The collaborators of a scenario without failing runs keep nothing that they answer by. -/
theorem isStateless_backend {scenario : Scenario} (reliable : scenario.failing = []) :
    scenario.backend.IsStateless where
  run snapshot budget host host' := by
    simp only [Scenario.backend, Scenario.run, reliable, List.not_mem_nil, if_false]
    cases scenario.execute snapshot budget with
    | ok run => rfl
    | error fault => rfl
  liftOccurrence occurrence host host' := by
    simp only [Scenario.backend, Scenario.liftOccurrence]
    cases occurrence.range? with
    | none => rfl
    | some range => rfl
  liftBlock _ _ _ := rfl

/-- Native code with an entry routine at `0x10` that goes on at one of two handlers: a jump at
`0x20`, behind which the bytecode has a pop, or that pop at `0x30`, behind which there is always
the jump. -/
def dispatcher (first : UInt32) : Scenario where
  stackPointer := 0x1000
  registers := { esi := 0x100 }
  memory := [(0x100, 0x30), (0x104, 0x40)]
  code :=
    [⟨0x10, some first, []⟩, ⟨0x20, none, [.load "EIP" "ESI" 0 (some 0x30), .add "ESI" 4]⟩,
      ⟨0x30, some 0x31, []⟩, ⟨0x31, some 0x20, []⟩]
  failing := []
  lifts :=
    [⟨0x10, none, some (entryRoutine 0x10 0xf00)⟩, ⟨0x20, none, some (jmpHandler 0x20)⟩,
      ⟨0x30, none, some (popHandler 0x30)⟩]
  blockLifts := []
  branches := []
  known := []
  decoder :=
    (Native.Table.ofList
      [{ address := 0x10, mnemonic := .ret }, { address := 0x20, mnemonic := .ret },
        { address := 0x30, mnemonic := .mov,
          operands := [⟨.memory (.based "ESP"), 4⟩, ⟨.register "ECX", 4⟩] },
        { address := 0x31, mnemonic := .ret }]).decoder

/-- A recovery of this code with a cache. -/
def dispatched (first : UInt32) (cache : Cache) : Except Fault Report × Recovery Host :=
  (recoverFrom (dispatcher first).backend {} 0x10).run.run (.initial {} cache)

/-- The operations of the recovered blocks. -/
def mnemonics (graph : Graph) : List (List String) :=
  graph.blockList.map fun block =>
    block.instructions.map fun instruction => instruction.operation.mnemonic

/-- A recovery that starts with the pop stores both patterns when it reads their handlers first,
so it can be repeated with them. -/
theorem saved_cache_keeps_pop_then_jump :
    ∃ loaded report state,
      Cache.ofDocument (dispatched 0x30 {}).2.cache.document = .ok loaded ∧
      dispatched 0x30 loaded = (.ok report, state) ∧
      state.graph = (dispatched 0x30 {}).2.graph ∧
      mnemonics state.graph = [["vInit"], ["vPopReg", "vJmp"]] := by
  have completes : (dispatched 0x30 {}).1 =
      .ok { tasksRun := 2, tasksFinished := 2, cacheMisses := 2 } := by
    cbv
  have stored : Stage.storesThrough (dispatcher 0x30).backend {} (dispatched 0x30 {}).2.cache 10
      ⟨.waiting, [0x10], .initial {} {}⟩ = true := by
    cbv
  have recovers : mnemonics (dispatched 0x30 {}).2.graph = [["vInit"], ["vPopReg", "vJmp"]] := by
    cbv
  obtain ⟨loaded, report, state, isLoaded, again, same⟩ :=
    saved_cache_keeps_code (isStateless_backend rfl) {} (Prod.ext completes rfl)
      (storedWhenRead_of_storesThrough stored)
  refine ⟨loaded, report, state, isLoaded, again, same, ?_⟩
  rw [same]
  exact recovers

/-- A recovery that starts with the jump does not recognise it before the pop has revealed the
stack register. It has stored the pattern by the end, though, so the jump is taken at once when
the recovery is repeated, and the pop is never read. -/
theorem saved_cache_skips_pop :
    (dispatcher 0x20).backend.IsStateless ∧
      ∃ report loaded, (dispatched 0x20 {}).1 = .ok report ∧
        Cache.ofDocument (dispatched 0x20 {}).2.cache.document = .ok loaded ∧
        mnemonics (dispatched 0x20 {}).2.graph = [["vInit"], ["vUnknown", "vPopReg", "vJmp"]] ∧
        mnemonics (dispatched 0x20 loaded).2.graph = [["vInit"], ["vJmp"]] ∧
        (dispatched 0x20 loaded).2.graph ≠ (dispatched 0x20 {}).2.graph := by
  have completes : (dispatched 0x20 {}).1 =
      .ok { tasksRun := 2, tasksFinished := 2, unknownHandlers := 1, cacheMisses := 3 } := by
    cbv
  have cold : mnemonics (dispatched 0x20 {}).2.graph =
      [["vInit"], ["vUnknown", "vPopReg", "vJmp"]] := by
    cbv
  have warm : mnemonics
      (dispatched 0x20 (.ofEntries (dispatched 0x20 {}).2.cache.entries)).2.graph =
        [["vInit"], ["vJmp"]] := by
    cbv
  refine ⟨isStateless_backend rfl, _, _, completes, Cache.ofDocument_document _, cold, warm, ?_⟩
  intro same
  have different : mnemonics (dispatched 0x20 {}).2.graph ≠ [["vInit"], ["vJmp"]] := by
    rw [cold]
    decide
  exact different ((congrArg mnemonics same).symm.trans warm)

end Witness

end VmRecovery.Flow

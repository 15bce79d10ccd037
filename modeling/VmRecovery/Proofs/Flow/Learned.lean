import VmRecovery.Proofs.Flow.Aftermath
import VmRecovery.Proofs.Flow.Persistence
import VmRecovery.Proofs.Flow.Tracking

/-!
# What the cache learns

A pattern enters the cache in one way only: a job that reads handlers comes to an occurrence of a
range that the cache does not know, and the occurrence is recognised as that pattern. An advance
adds exactly the patterns that are learnt in this way (`Advance.mem_patterns_iff`), and no pattern
is ever replaced. A range stands for one list of addresses over a whole run, so a lifter that goes
by the addresses alone lets the selection under which a pattern was learnt account for it at every
other moment too (`cached_patterns_exact`).
-/

namespace VmRecovery

open VmRecovery.Flow Handler Machine RecoveryM Trace

/-- A lifter that goes by the addresses of an occurrence alone. -/
def Backend.LiftsByAddresses {σ : Type} (backend : Backend σ) : Prop :=
  ∀ (occurrence other : Occurrence) (host host' : σ), occurrence.addresses = other.addresses →
    (backend.liftOccurrence occurrence host).1 = (backend.liftOccurrence other host').1

namespace Flow

variable {σ α : Type} {backend : Backend σ} {settings : Settings} {walk : Walk}
  {start stage stage' : Stage σ} {range : HandlerRange} {pattern : Pattern}

/-- An occurrence is lifted and, under the selection in force, recognised as a handler. -/
def Recovery.Recognises (backend : Backend σ) (state : Recovery σ) (occurrence : Occurrence)
    (pattern : Pattern) : Prop :=
  ∃ fragment, (backend.liftOccurrence occurrence state.session.host).1 = some fragment ∧
    Site.verdict backend.decoder { fragment, selection := state.selection } = .handler pattern

/-- A job that reads handlers comes to an occurrence of a range that the cache has no pattern for,
and recognises it. -/
structure Learns (backend : Backend σ) (walk : Walk) (state : Recovery σ) (range : HandlerRange)
    (pattern : Pattern) : Prop where
  reading : walk.phase = .readingHandlers
  isRange : (walk.walker.current state.grouping).range? = some (range.first, range.last)
  missed : state.cache.patterns[range]? = none
  recognises : state.Recognises backend (walk.walker.current state.grouping) pattern

/-! Actions that leave the cache alone. -/

namespace SameCache

/-- Two actions that leave the cache alone do so one behind the other. -/
theorem bind {β : Type} {action : RecoveryM σ α} {next : α → RecoveryM σ β}
    (first : Relates SameCache action) (second : ∀ answer, Relates SameCache (next answer)) :
    Relates SameCache (action >>= next) :=
  Relates.bind id (fun same further => further.trans same) first second

/-- A look at the recovery leaves the cache alone. -/
theorem get : Relates SameCache (get : RecoveryM σ (Recovery σ)) :=
  fun _ => rfl

/-- A collaborator cannot change the cache. -/
theorem inSession (action : SessionM σ α) : Relates SameCache (inSession action) := by
  intro state
  rw [ends_inSession]
  exact .of_forall (fun _ _ => rfl) fun _ _ => rfl

/-- A handler that has a pattern already is recognised without a change of the cache. -/
theorem recognise (backend : Backend σ) (occurrence : Occurrence) (range : HandlerRange) :
    Relates SameCache (recognise backend occurrence range true) := by
  refine bind (inSession _) fun fragment => bind get fun state => ?_
  refine bind (inSession _) fun verdict => ?_
  split
  · exact (Blind.pure _).sameCache
  · exact (Blind.pure _).sameCache

/-- A pattern that is found in the cache leaves it as it is, whether it is taken or not. -/
theorem consult (backend : Backend σ) (occurrence : Occurrence) (range : HandlerRange)
    (pattern : Pattern) : Relates SameCache (consult backend occurrence range pattern) := by
  refine bind get fun state => ?_
  split
  · exact ((Blind.note _).bind fun _ => .pure _).sameCache
  · exact bind (Blind.note _).sameCache fun _ => recognise backend occurrence range

/-- An entry is read without the cache. -/
theorem inspectEntry (backend : Backend σ) (walk : Walk) :
    Relates SameCache (inspectEntry backend walk) := by
  refine bind (Blind.nextOccurrence walk).sameCache fun handedOut => ?_
  refine bind (Blind.joinKeyPush _ _).sameCache fun joined => ?_
  dsimp only
  split
  · exact (Blind.throw _).sameCache
  · refine bind (inSession _) fun fragment => ?_
    split
    · exact ((Blind.note _).bind fun _ => .pure _).sameCache
    · refine bind (fun _ => rfl) fun _ => ?_
      exact ((Blind.note _).bind fun _ => .pure _).sameCache

/-- No effect of an instruction changes the cache. -/
theorem applyEffect (settings : Settings) (walk : Walk) (occurrence : Occurrence)
    (block : Position) (instruction : Instruction) :
    Relates SameCache (applyEffect backend settings walk occurrence block instruction) := by
  refine (applyEffect_follows backend settings walk occurrence).imp fun state after follows => ?_
  cases follows with
  | resumes resumes =>
      obtain ⟨session, selection, jobs, -, rfl⟩ := resumes
      rfl
  | leaves isExit isSet => rfl
  | calls isExit grows => rfl

/-- What is done about a find does not change the cache. -/
theorem afterInspection (settings : Settings) (answer : Walk × Option Find) :
    Relates SameCache (afterInspection backend settings answer) := by
  obtain ⟨walk, find?⟩ := answer
  cases find? with
  | none => exact (Blind.pure _).sameCache
  | some find =>
      refine bind (bind (Blind.record walk find.instruction).sameCache fun block? => ?_)
        fun _ => (Blind.pure _).sameCache
      split
      · exact (Blind.pure _).sameCache
      · exact bind (applyEffect settings _ _ _ _) fun _ => (Blind.pure _).sameCache

end SameCache

/-! What a turn adds to the cache. -/

/-- A handler that is recognised has been lifted and classified. -/
theorem recognise_verdict (backend : Backend σ) (occurrence : Occurrence) (range : HandlerRange)
    (state : Recovery σ) :
    ((recognise backend occurrence range true).run.run state).1 = .ok (.handler pattern) ↔
      state.Recognises backend occurrence pattern := by
  have ends : Ends (recognise backend occurrence range true) state
      (fun verdict _ => ∃ fragment,
        (backend.liftOccurrence occurrence state.session.host).1 = some fragment ∧
          Site.verdict backend.decoder { fragment, selection := state.selection } = verdict)
      fun _ _ => (backend.liftOccurrence occurrence state.session.host).1 = none := by
    simp only [recognise, SessionM.lift, SessionM.call, SessionM.classify, SessionM.noteAll,
      ends_bind, ends_inSession, ends_modifyGet, ends_modify, ends_get]
    split
    · rename_i fragment lifted
      simp only [ends_pure]
      split
      · exact ⟨fragment, lifted, rfl⟩
      · exact ⟨fragment, lifted, rfl⟩
    · assumption
  generalize ran : (recognise backend occurrence range true).run.run state = outcome
  obtain ⟨fault | verdict, after⟩ := outcome
  · have unlifted := ends.of_error ran
    constructor
    · intro impossible
      cases impossible
    · rintro ⟨fragment, lifted, -⟩
      cases unlifted.symm.trans lifted
  · obtain ⟨fragment, lifted, isVerdict⟩ := ends.of_ok ran
    constructor
    · intro isHandler
      exact ⟨fragment, lifted, isVerdict.trans (Except.ok.inj isHandler)⟩
    · rintro ⟨other, otherLifted, isHandler⟩
      obtain rfl := Option.some.inj (lifted.symm.trans otherLifted)
      exact congrArg Except.ok (isVerdict.symm.trans isHandler)

/-- Looking a handler up adds the pattern that it is recognised as, if its range had none. -/
theorem verdictOf_patterns (backend : Backend σ) (occurrence : Occurrence)
    (range other : HandlerRange) (state : Recovery σ) :
    ((verdictOf backend occurrence range).run.run state).2.cache.patterns[other]? = some pattern ↔
      state.cache.patterns[other]? = some pattern ∨
        other = range ∧ state.cache.patterns[range]? = none ∧
          state.Recognises backend occurrence pattern := by
  obtain ⟨hits, misses, ran⟩ := verdictOf_run backend occurrence range state
  rw [ran]
  let asked : Recovery σ := { state with cache := { state.cache with hits, misses } }
  cases held : state.cache.patterns[range]? with
  | some known =>
      have same := ends_both.mp (SameCache.consult backend occurrence range known asked)
      dsimp only
      rw [same]
      simp [asked]
  | none =>
      have same := ends_both.mp (SameCache.recognise backend occurrence range asked)
      have recognises : state.Recognises backend occurrence pattern ↔ _ :=
        (recognise_verdict backend occurrence range asked).symm
      rcases recognise_cases backend occurrence range asked with
        ⟨learnt, after, recognised, isStored⟩ | ⟨notHandler, unchanged⟩
      · rw [recognised] at same recognises
        rw [isStored, recognises, Cache.patterns_insert, same]
        by_cases isRange : range = other
        · subst isRange
          simp [held]
        · simp [isRange, Ne.symm isRange, asked]
      · rw [unchanged, same, recognises]
        simp [notHandler, asked]

/-- Reading an occurrence adds the pattern that it is recognised as, if its range had none. -/
theorem readOccurrence_patterns (backend : Backend σ) (handedOut : Occurrence × Walk)
    (state : Recovery σ) :
    ((readOccurrence backend handedOut).run.run state).2.cache.patterns[range]? = some pattern ↔
      state.cache.patterns[range]? = some pattern ∨
        handedOut.1.range? = some (range.first, range.last) ∧
          state.cache.patterns[range]? = none ∧
          state.Recognises backend handedOut.1 pattern := by
  unfold readOccurrence
  split
  · rename_i isEmpty
    change state.cache.patterns[range]? = some pattern ↔ _
    simp [isEmpty]
  · rename_i first last isRange
    rw [cache_bind fun verdict => (readAs_blind backend _ _ first verdict).sameCache,
      verdictOf_patterns, isRange]
    refine or_congr_right ?_
    constructor
    · rintro ⟨rfl, learnt⟩
      exact ⟨rfl, learnt⟩
    · rintro ⟨same, learnt⟩
      obtain ⟨rfl, rfl⟩ := Prod.mk.inj (Option.some.inj same)
      exact ⟨rfl, learnt⟩

/-- An occurrence without instructions has no range. -/
theorem range?_eq_none {occurrence : Occurrence} (isEmpty : occurrence.steps = []) :
    occurrence.range? = none := by
  simp [Occurrence.range?, isEmpty]

/-- A job comes to the occurrence that its walker hands out, unless that has no range. -/
theorem nextOccurrence_range (walk : Walk) (state : Recovery σ) :
    Ends (nextOccurrence walk) state
      (fun answer after => answer.1 = walk.walker.current state.grouping ∧ after = state)
      fun _ after => (walk.walker.current state.grouping).range? = none ∧ after = state := by
  rw [ends_nextOccurrence]
  split
  · rename_i exhausted
    have ahead := walk.walker.current_isPrefix state.grouping
    rw [List.isEmpty_iff.mp exhausted, List.prefix_nil] at ahead
    exact ⟨range?_eq_none ahead, rfl⟩
  · split
    · rename_i isEmpty
      exact ⟨range?_eq_none (List.isEmpty_iff.mp isEmpty), rfl⟩
    · exact ⟨rfl, rfl⟩

/-- Reading the next handler adds the pattern that is learnt. -/
theorem inspectHandler_patterns (backend : Backend σ) (state : Recovery σ)
    (reading : walk.phase = .readingHandlers) :
    ((inspectHandler backend walk).run.run state).2.cache.patterns[range]? = some pattern ↔
      state.cache.patterns[range]? = some pattern ∨ Learns backend walk state range pattern := by
  have next := nextOccurrence_range walk state
  rw [inspectHandler_eq, run_run_bind]
  rcases ran : (nextOccurrence walk).run.run state with ⟨fault | ⟨occurrence, walk'⟩, after⟩
  · obtain ⟨noRange, rfl⟩ := next.of_error ran
    refine (or_iff_left ?_).symm
    intro learns
    cases noRange.symm.trans learns.isRange
  · obtain ⟨rfl, rfl⟩ := next.of_ok ran
    dsimp only
    rw [readOccurrence_patterns]
    refine or_congr_right ⟨?_, ?_⟩
    · exact fun ⟨isRange, missed, recognises⟩ => ⟨reading, isRange, missed, recognises⟩
    · exact fun learns => ⟨learns.isRange, learns.missed, learns.recognises⟩

/-- A job that does not read handlers leaves the cache alone. -/
theorem SameCache.inspect (backend : Backend σ) (notReading : walk.phase ≠ .readingHandlers) :
    Relates SameCache (inspect backend walk) := by
  unfold RecoveryM.inspect
  split
  · exact inspectEntry backend walk
  · rename_i reading
    exact absurd reading notReading
  · exact (Blind.pure _).sameCache
  · exact (Blind.throw _).sameCache

/-- The patterns known after a turn are those known before and the one that is learnt. -/
theorem turn_patterns (backend : Backend σ) (settings : Settings) (state : Recovery σ)
    (unfinished : walk.phase ≠ .finished) :
    ((turn backend settings walk).run.run state).2.cache.patterns[range]? = some pattern ↔
      state.cache.patterns[range]? = some pattern ∨ Learns backend walk state range pattern := by
  rw [turn_eq backend settings unfinished, cache_bind (SameCache.afterInspection settings)]
  by_cases reading : walk.phase = .readingHandlers
  · rw [inspect, reading]
    exact inspectHandler_patterns backend state reading
  · rw [ends_both.mp (SameCache.inspect backend reading state)]
    exact (or_iff_left fun learns => reading learns.reading).symm

/-! What a run adds to the cache. -/

/-- The running job of a stage learns a pattern in its next turn. -/
def Stage.Learns (backend : Backend σ) (stage : Stage σ) (range : HandlerRange)
    (pattern : Pattern) : Prop :=
  ∃ job walk, stage.activity = .running job walk ∧
    Flow.Learns backend walk stage.state range pattern

/-- What a stage with a running job learns is what the job learns. -/
theorem Stage.learns_iff {job : Job} (running : stage.activity = .running job walk) :
    stage.Learns backend range pattern ↔ Flow.Learns backend walk stage.state range pattern := by
  constructor
  · rintro ⟨_, _, running', learns⟩
    cases running.symm.trans running'
    exact learns
  · exact fun learns => ⟨job, walk, running, learns⟩

/-- The patterns known after an advance are those known before and the one that is learnt. -/
theorem Advance.mem_patterns_iff (advance : Advance backend settings stage stage') :
    stage'.state.cache.patterns[range]? = some pattern ↔
      stage.state.cache.patterns[range]? = some pattern ∨ stage.Learns backend range pattern := by
  -- Only a turn of a running job that reads handlers learns a pattern.
  have rests : stage'.state.cache = stage.state.cache → ¬stage.Learns backend range pattern →
      (stage'.state.cache.patterns[range]? = some pattern ↔
        stage.state.cache.patterns[range]? = some pattern ∨
          stage.Learns backend range pattern) := by
    intro same nothing
    rw [same, or_iff_left nothing]
  have idle : (∀ job walk, stage.activity ≠ .running job walk) →
      ¬stage.Learns backend range pattern := by
    rintro idle ⟨job, walk, running, -⟩
    exact idle job walk running
  cases advance with
  | requests => exact rests rfl (idle (by simp))
  | launches queued allowed launched =>
      obtain ⟨steps, session, rfl, -⟩ := (launch_ends backend settings _ _).of_ok launched
      exact rests rfl (idle (by simp))
  | stumbles queued allowed launched settled =>
      obtain ⟨session, rfl⟩ := (launch_ends backend settings _ _).of_error launched
      exact rests (accounted_of_settled settled).cache_eq (idle (by simp))
  | turns unfinished turned =>
      rw [Stage.learns_iff rfl, ← turn_patterns backend settings _ unfinished, turned]
  | fails unfinished turned settled =>
      rw [Stage.learns_iff rfl, ← turn_patterns backend settings _ unfinished, turned]
      dsimp only
      rw [(accounted_of_settled settled).cache_eq]
  | completes finished settled =>
      refine rests (accounted_of_settled settled).cache_eq fun learns => ?_
      cases finished.symm.trans ((Stage.learns_iff rfl).mp learns).reading
  | concludes exhausted =>
      exact rests (accounted_conclude backend settings _).cache_eq (idle (by simp))

/-- A pattern that is known in a run was known at its start or has been learnt on the way. -/
theorem Runs.learns (runs : Runs backend settings start stage)
    (known : stage.state.cache.patterns[range]? = some pattern) :
    start.state.cache.patterns[range]? = some pattern ∨
      ∃ earlier, Runs backend settings start earlier ∧ earlier.Learns backend range pattern := by
  induction runs with
  | refl => exact .inl known
  | tail before advance inductionHypothesis =>
      rcases advance.mem_patterns_iff.mp known with kept | learns
      · exact inductionHypothesis kept
      · exact .inr ⟨_, before, learns⟩

/-- Occurrences that are handed out at two moments of a run have the same addresses if they have
the same range. -/
theorem Runs.addresses_eq {paths : List (List UInt64)} {walker walker' : Walker}
    (onTrack : start.OnTrack backend paths) (runs : Runs backend settings start stage)
    (runs' : Runs backend settings start stage')
    (same : (walker.current stage.state.grouping).range? =
      (walker'.current stage'.state.grouping).range?) :
    (walker.current stage.state.grouping).addresses =
      (walker'.current stage'.state.grouping).addresses := by
  rcases runs.total runs' with later | later
  · obtain ⟨observed, onTrack⟩ := onTrack.runs runs
    obtain ⟨further, onTrack'⟩ := onTrack.runs later
    rw [onTrack.grouped, onTrack'.grouped] at same ⊢
    exact addresses_eq_of_range?_eq same
  · obtain ⟨observed, onTrack'⟩ := onTrack.runs runs'
    obtain ⟨further, onTrack⟩ := onTrack'.runs later
    rw [onTrack.grouped, onTrack'.grouped] at same ⊢
    exact (addresses_eq_of_range?_eq same.symm).symm

/-- In every sequence of recoveries a pattern that is known stays known, an advance adds exactly
the patterns that are learnt, and a handler that is not recognised adds none. If the cache was
empty at first and the lifter goes by the addresses alone, then for every known pattern there is
one selection of registers under which every occurrence of its range, handed out by the groups in
force at any moment of the run, is recognised as that pattern. -/
theorem cached_patterns_exact (backend : Backend σ) (settings : Settings) (host : σ)
    (entries : List UInt64) :
    (∀ cache, Runs backend settings ⟨.waiting, entries, .initial host cache⟩
      ⟨.waiting, [], recoverEach backend settings entries (.initial host cache)⟩) ∧
    (∀ stage stage', Runs backend settings stage stage' →
      stage.state.cache.Within stage'.state.cache) ∧
    (∀ stage stage', Advance backend settings stage stage' →
      ∀ (range : HandlerRange) (pattern : Pattern),
        stage'.state.cache.patterns[range]? = some pattern ↔
          stage.state.cache.patterns[range]? = some pattern ∨
            stage.Learns backend range pattern) ∧
    (∀ stage stage' job walk fragment, Advance backend settings stage stage' →
      stage.activity = .running job walk →
      (backend.liftOccurrence (walk.walker.current stage.state.grouping)
        stage.state.session.host).1 = some fragment →
      Site.verdict backend.decoder { fragment, selection := stage.state.selection } ∈
        [.stackGuard, .junk, .unknown] →
      stage'.state.cache.Within stage.state.cache) ∧
    (backend.LiftsByAddresses →
      ∀ stage, Runs backend settings ⟨.waiting, entries, .initial host {}⟩ stage →
        ∀ (range : HandlerRange) (pattern : Pattern),
          stage.state.cache.patterns[range]? = some pattern →
          ∃ selection : Selection, ∀ (stage' : Stage σ) (walker : Walker) (host' : σ),
            Runs backend settings ⟨.waiting, entries, .initial host {}⟩ stage' →
            (walker.current stage'.state.grouping).range? = some (range.first, range.last) →
            ∃ fragment,
              (backend.liftOccurrence (walker.current stage'.state.grouping) host').1 =
                some fragment ∧
              Site.verdict backend.decoder { fragment, selection } = .handler pattern) := by
  refine ⟨fun cache => runs_recoverEach entries _, fun _ _ => Runs.cache_within,
    fun _ _ advance _ _ => advance.mem_patterns_iff, ?_, ?_⟩
  · intro stage stage' job walk fragment advance running lifted noHandler range pattern known
    refine (advance.mem_patterns_iff.mp known).resolve_right fun learns => ?_
    obtain ⟨other, otherLifted, isHandler⟩ := ((Stage.learns_iff running).mp learns).recognises
    obtain rfl := Option.some.inj (lifted.symm.trans otherLifted)
    simp [isHandler] at noHandler
  · intro liftsByAddresses stage runs range pattern known
    have onTrack := Stage.onTrack_initial backend host {} entries
    obtain impossible | ⟨earlier, runs, job, walk, running, learns⟩ := runs.learns known
    · simp [Recovery.initial] at impossible
    · obtain ⟨fragment, lifted, recognised⟩ := learns.recognises
      refine ⟨earlier.state.selection, fun stage' walker host' runs' isRange => ?_⟩
      have sameAddresses := runs.addresses_eq onTrack runs' (learns.isRange.trans isRange.symm)
      exact ⟨fragment, (liftsByAddresses _ _ _ _ sameAddresses).symm.trans lifted, recognised⟩

section Witness

open Simulation

/-- The addresses of an occurrence tell its range. -/
theorem range?_eq_of_addresses {occurrence other : Occurrence}
    (same : occurrence.addresses = other.addresses) : occurrence.range? = other.range? := by
  have ends : ∀ occurrence : Occurrence, occurrence.range? =
      occurrence.addresses.head?.bind fun first =>
        occurrence.addresses.getLast?.map fun last => (first, last) := by
    intro occurrence
    simp only [Occurrence.range?, Occurrence.addresses, List.head?_map, List.getLast?_map]
    cases occurrence.steps.head? <;> cases occurrence.steps.getLast? <;> rfl
  rw [ends, ends, same]

/-- A scenario tells occurrences apart by their ends. -/
theorem liftsByAddresses_backend (scenario : Scenario) : scenario.backend.LiftsByAddresses := by
  intro occurrence other host host' same
  simp only [Scenario.backend, Scenario.liftOccurrence, range?_eq_of_addresses same]
  cases other.range? with
  | none => rfl
  | some range => rfl

/-- A stage asks for the range of the occurrence that its job, reading handlers, comes to. -/
theorem Stage.asksFor?_eq_some {stage : Stage σ} (asks : stage.asksFor? = some range) :
    ∃ job walk, stage.activity = .running job walk ∧ walk.phase = .readingHandlers ∧
      (walk.walker.current stage.state.grouping).range? = some (range.first, range.last) := by
  unfold Stage.asksFor? at asks
  split at asks
  · rename_i job walk running
    unfold Flow.asksFor? at asks
    split at asks
    · rename_i reading
      obtain ⟨_, isRange, rfl⟩ := Option.map_eq_some_iff.mp asks
      exact ⟨job, walk, running, reading, isRange⟩
    · cases asks
  · cases asks

/-- The stages of a recovery that reads the jump of the dispatcher first. -/
def dispatcherStage (count : Nat) : Stage Host :=
  Stage.after (dispatcher 0x20).backend {} ⟨.waiting, [0x10], .initial {} {}⟩ count

/-- The jump of the dispatcher is read before the register that it is recognised by is selected,
and is learnt when control comes to it again. Under the selection of that moment the first
occurrence is a jump as well. -/
theorem jump_exact_before_learnt :
    (dispatcher 0x20).backend.LiftsByAddresses ∧
      (dispatcherStage 6).state.cache.knows ⟨0x20, 0x20⟩ = false ∧
      (dispatcherStage 8).state.cache.patterns[(⟨0x20, 0x20⟩ : HandlerRange)]? = some .jmp ∧
      ∃ job walk, (dispatcherStage 5).activity = .running job walk ∧
        walk.phase = .readingHandlers ∧
        (walk.walker.current (dispatcherStage 5).state.grouping).range? = some (0x20, 0x20) ∧
        ∃ selection, ∀ host, ∃ fragment,
          ((dispatcher 0x20).backend.liftOccurrence
              (walk.walker.current (dispatcherStage 5).state.grouping) host).1 = some fragment ∧
            Site.verdict (dispatcher 0x20).backend.decoder { fragment, selection } =
              .handler .jmp := by
  have asks : (dispatcherStage 5).asksFor? = some ⟨0x20, 0x20⟩ := by cbv
  have missing : (dispatcherStage 6).state.cache.knows ⟨0x20, 0x20⟩ = false := by cbv
  have known : (dispatcherStage 8).state.cache.patterns[(⟨0x20, 0x20⟩ : HandlerRange)]? =
      some .jmp := by cbv
  obtain ⟨job, walk, running, reading, isRange⟩ := Stage.asksFor?_eq_some asks
  have runs : ∀ count, Runs (dispatcher 0x20).backend {} ⟨.waiting, [0x10], .initial {} {}⟩
      (dispatcherStage count) := Stage.runs_after _ _ _
  obtain ⟨-, -, -, -, accountsFor⟩ := cached_patterns_exact (dispatcher 0x20).backend {} {} [0x10]
  obtain ⟨selection, recognised⟩ :=
    accountsFor (liftsByAddresses_backend _) _ (runs 8) _ _ known
  exact ⟨liftsByAddresses_backend _, missing, known, job, walk, running, reading, isRange,
    selection, fun host => recognised _ _ host (runs 5) isRange⟩

end Witness

end Flow

end VmRecovery

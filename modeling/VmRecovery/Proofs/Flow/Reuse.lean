import VmRecovery.Proofs.Cache
import VmRecovery.Proofs.Flow.Backdrop
import VmRecovery.Proofs.Flow.Inspection

/-!
# Reusing patterns

A recovery that starts with saved patterns takes them where another one recognises handlers. Its
turn ends the same if the other recovery, in that turn, comes to know the saved pattern of the
range that it reads, or if there is none (`turn_reuses`).
-/

namespace VmRecovery.Flow

open Handler Machine RecoveryM Trace

variable {σ α β : Type} {backend : Backend σ} {saved : Cache} {state : Recovery σ}
  {occurrence : Occurrence} {range : HandlerRange}

/-- A recovery that has come as far as another one and knows the patterns of a saved cache. -/
def Warm (saved : Cache) (state warm : Recovery σ) : Prop :=
  ∃ backdrop, warm = state.over backdrop ∧
    ∀ range : HandlerRange, backdrop.cache.patterns[range]? = saved.patterns[range]?

/-- An action ends the same in a recovery that knows the patterns of a saved cache. -/
def Reuses (saved : Cache) (action : RecoveryM σ α) (state : Recovery σ) : Prop :=
  ∀ warm, Warm saved state warm →
    (action.run.run warm).1 = (action.run.run state).1 ∧
      Warm saved (action.run.run state).2 (action.run.run warm).2

/-- A blind action ends the same whatever patterns are known. -/
theorem Blind.reuses {action : RecoveryM σ α} (blind : Blind action) (saved : Cache)
    (state : Recovery σ) : Reuses saved action state := by
  rintro _ ⟨backdrop, rfl, same⟩
  obtain ⟨session, ran⟩ := (blind state).1 backdrop
  rw [ran]
  exact ⟨rfl, _, rfl, same⟩

/-- Two actions end the same one behind the other, if the second does from wherever the first one
may end. -/
theorem Reuses.bind {action : RecoveryM σ α} {next : α → RecoveryM σ β}
    (first : Reuses saved action state)
    (second : ∀ answer after, action.run.run state = (.ok answer, after) →
      Reuses saved (next answer) after) : Reuses saved (action >>= next) state := by
  intro warm isWarm
  obtain ⟨same, isWarm'⟩ := first warm isWarm
  rw [run_run_bind, run_run_bind]
  cases ran : action.run.run state with
  | mk outcome after =>
      rw [ran] at same isWarm'
      generalize action.run.run warm = outcome' at same isWarm'
      obtain ⟨_, warm'⟩ := outcome'
      cases same
      cases outcome with
      | error fault => exact ⟨rfl, isWarm'⟩
      | ok answer => exact second answer after ran warm' isWarm'

/-- The patterns that are known stay as they are. -/
def SameCache (state after : Recovery σ) : Prop :=
  after.cache = state.cache

/-- A blind action leaves the cache alone. -/
theorem Blind.sameCache {action : RecoveryM σ α} (blind : Blind action) :
    Relates SameCache action :=
  fun state => ends_both.mpr (blind state).2

/-- What is done behind an action leaves the patterns that it has come to know. -/
theorem cache_bind {next : α → RecoveryM σ β} (same : ∀ answer, Relates SameCache (next answer))
    (action : RecoveryM σ α) (state : Recovery σ) :
    ((action >>= next).run.run state).2.cache = (action.run.run state).2.cache := by
  rw [run_run_bind]
  generalize action.run.run state = outcome
  obtain ⟨fault | answer, after⟩ := outcome
  · rfl
  · exact ends_both.mp (same answer after)

/-! Recognising a handler. -/

/-- What the handler of an occurrence turns out to be if a pattern is known for its range. -/
def consult (backend : Backend σ) (occurrence : Occurrence) (range : HandlerRange)
    (pattern : Pattern) : RecoveryM σ Verdict := do
  if pattern.fits (← get).selection then
    note (.cacheHit range.first pattern.name)
    return .handler pattern
  else
    note (.cacheConflict range.first pattern.name)
    recognise backend occurrence range true

/-- Looking a handler up asks the cache first. -/
theorem verdictOf_run (backend : Backend σ) (occurrence : Occurrence) (range : HandlerRange)
    (state : Recovery σ) :
    ∃ hits misses, (verdictOf backend occurrence range).run.run state =
      (match state.cache.patterns[range]? with
        | none => recognise backend occurrence range false
        | some pattern => consult backend occurrence range pattern).run.run
        { state with cache := { state.cache with hits, misses } } := by
  obtain ⟨hits, misses, looked⟩ := state.cache.lookup_eq range
  refine ⟨hits, misses, ?_⟩
  have asked : (cached? range).run.run state =
      (.ok state.cache.patterns[range]?,
        { state with cache := { state.cache with hits, misses } }) := by
    change (Except.ok (state.cache.lookup range).1,
      { state with cache := (state.cache.lookup range).2 }) = _
    rw [looked]
  rw [verdictOf, run_run_bind, asked]
  dsimp only
  cases state.cache.patterns[range]? with
  | none => rfl
  | some pattern => rfl

/-- A handler with a known pattern is recognised anew without a change of the cache. -/
theorem recognise_blind (stateless : backend.IsStateless) (occurrence : Occurrence)
    (range : HandlerRange) : Blind (recognise backend occurrence range true) := by
  refine (Blind.inSession (.lift stateless _ _)).bind fun fragment => ?_
  refine .read (fun _ _ => rfl) fun state => ?_
  refine (Blind.inSession (.classify _ _)).bind fun verdict => ?_
  split
  · exact .pure _
  · exact .pure _

/-- What a handler is by a known pattern does not depend on the patterns that are known otherwise.
-/
theorem consult_blind (stateless : backend.IsStateless) (occurrence : Occurrence)
    (range : HandlerRange) (pattern : Pattern) :
    Blind (consult backend occurrence range pattern) := by
  refine .read (fun _ _ => rfl) fun state => ?_
  split
  · exact (Blind.note _).bind fun _ => .pure _
  · exact (Blind.note _).bind fun _ => recognise_blind stateless _ _

/-- Stores the pattern of a handler that has been recognised. -/
def learn (range : HandlerRange) : Verdict → RecoveryM σ Verdict
  | .handler pattern => do
      modify fun state => { state with cache := state.cache.insert range pattern }
      return .handler pattern
  | verdict => return verdict

/-- A handler without a known pattern is recognised like one that has a pattern, and its pattern is
learnt behind that. -/
theorem recognise_eq (backend : Backend σ) (occurrence : Occurrence) (range : HandlerRange) :
    recognise backend occurrence range false =
      recognise backend occurrence range true >>= learn range := by
  simp only [recognise, bind_assoc]
  refine bind_congr fun fragment => bind_congr fun current => bind_congr fun verdict => ?_
  cases verdict <;> simp [learn]

/-- A handler without a known pattern is recognised the same way, and its pattern is stored if
there is one. -/
theorem recognise_cases (backend : Backend σ) (occurrence : Occurrence) (range : HandlerRange)
    (state : Recovery σ) :
    (∃ pattern after,
      (recognise backend occurrence range true).run.run state = (.ok (.handler pattern), after) ∧
      (recognise backend occurrence range false).run.run state =
        (.ok (.handler pattern), { after with cache := after.cache.insert range pattern })) ∨
    (∀ pattern, ((recognise backend occurrence range true).run.run state).1 ≠
        .ok (.handler pattern)) ∧
      (recognise backend occurrence range false).run.run state =
        (recognise backend occurrence range true).run.run state := by
  rw [recognise_eq, run_run_bind]
  generalize (recognise backend occurrence range true).run.run state = outcome
  obtain ⟨fault | verdict, after⟩ := outcome
  · exact .inr ⟨by simp, rfl⟩
  · cases verdict with
    | handler pattern => exact .inl ⟨pattern, after, rfl, rfl⟩
    | _ => exact .inr ⟨by simp, rfl⟩

/-- By a known pattern a handler is taken or recognised without anything being stored. -/
theorem consult_consults (backend : Backend σ) (occurrence : Occurrence) (range : HandlerRange)
    (pattern : Pattern) (state : Recovery σ) :
    Ends (consult backend occurrence range pattern) state (fun _ => Consulted state)
      fun _ => Consulted state := by
  simp only [consult, note, SessionM.note, SessionM.noteAll, ends_bind, ends_get]
  split
  · exact ⟨_, _, rfl⟩
  · refine (recognise_consults backend occurrence range true _).imp ?_ ?_ <;>
    · rintro _ _ ⟨session, cache, rfl⟩
      exact ⟨session, cache, rfl⟩

/-- What a handler has been recognised as is what it turns out to be once its pattern is known,
whether the pattern is taken or the handler is recognised anew. -/
theorem consult_of_recognised (stateless : backend.IsStateless) {pattern : Pattern}
    (recognised : ((recognise backend occurrence range true).run.run state).1 =
      .ok (.handler pattern)) :
    ((consult backend occurrence range pattern).run.run state).1 = .ok (.handler pattern) := by
  rw [consult, run_run_bind]
  change ((if pattern.fits state.selection then _ else _ : RecoveryM σ Verdict).run.run state).1 = _
  split
  · rfl
  · let noted : Recovery σ := ((note (.cacheConflict range.first pattern.name)).run.run state).2
    obtain ⟨session, ran⟩ := (recognise_blind stateless occurrence range state).1
      ⟨noted.session, state.cache, state.report.cacheHits, state.report.cacheMisses⟩
    exact (congrArg Prod.fst ran).trans recognised

/-- Looking a handler up does not tell a warm recovery from the other one. -/
theorem Warm.of_consulted {warm after warm' : Recovery σ} (isWarm : Warm saved state warm)
    (consulted : Consulted state after) (consulted' : Consulted warm warm')
    (kept : warm'.cache = warm.cache) : Warm saved after warm' := by
  obtain ⟨backdrop, rfl, same⟩ := isWarm
  obtain ⟨session, cache, rfl⟩ := consulted
  obtain ⟨session', cache', rfl⟩ := consulted'
  obtain rfl : cache' = backdrop.cache := kept
  exact ⟨{ backdrop with session := session' }, rfl, same⟩

/-- Where a recovery recognises a handler and stores its pattern, a warm one that knows the pattern
gives the same answer and comes as far. -/
theorem Warm.consult_stored {warm after : Recovery σ} {pattern : Pattern}
    (isWarm : Warm saved state warm) (stateless : backend.IsStateless)
    (recognised : (recognise backend occurrence range true).run.run state =
      (.ok (.handler pattern), after)) :
    ((consult backend occurrence range pattern).run.run warm).1 = .ok (.handler pattern) ∧
      Warm saved { after with cache := after.cache.insert range pattern }
        ((consult backend occurrence range pattern).run.run warm).2 := by
  have again := (recognise_blind stateless occurrence range).reuses saved state _ isWarm
  rw [recognised] at again
  have answers := consult_of_recognised stateless again.1
  refine ⟨answers, isWarm.of_consulted ?_ ?_ (consult_blind stateless _ _ _ _).2⟩
  · obtain ⟨session, cache, rfl⟩ :=
      (recognise_consults backend occurrence range true state).of_ok recognised
    exact ⟨session, _, rfl⟩
  · exact (consult_consults backend occurrence range pattern _).of_ok (Prod.ext answers rfl)

/-- What a recovery does not recognise as a handler, a warm one does not either, and it stores
nothing. -/
theorem Warm.recognise_unstored {warm : Recovery σ} (isWarm : Warm saved state warm)
    (stateless : backend.IsStateless)
    (notHandler : ∀ pattern, ((recognise backend occurrence range true).run.run state).1 ≠
      .ok (.handler pattern)) :
    (recognise backend occurrence range false).run.run warm =
      (recognise backend occurrence range true).run.run warm := by
  rcases recognise_cases backend occurrence range warm with
    ⟨pattern, after, recognised, -⟩ | ⟨-, unchanged⟩
  · have again := (recognise_blind stateless occurrence range).reuses saved state _ isWarm
    rw [recognised] at again
    exact absurd again.1.symm (notHandler pattern)
  · exact unchanged

/-- A handler turns out to be the same if the saved cache has no pattern for its range, or the
one that is known afterwards. -/
theorem verdictOf_reuses (stateless : backend.IsStateless)
    (within : ((verdictOf backend occurrence range).run.run state).2.cache.Within saved)
    (stored : saved.knows range = true →
      ((verdictOf backend occurrence range).run.run state).2.cache.knows range = true) :
    Reuses saved (verdictOf backend occurrence range) state := by
  rintro _ ⟨backdrop, rfl, same⟩
  obtain ⟨hits, misses, ran⟩ := verdictOf_run backend occurrence range state
  obtain ⟨hits', misses', ran'⟩ :=
    verdictOf_run backend occurrence range (state.over backdrop)
  let asked : Recovery σ := { state with cache := { state.cache with hits, misses } }
  let behind : Backdrop σ :=
    { backdrop with cache := { backdrop.cache with hits := hits', misses := misses' } }
  have warmRan : (verdictOf backend occurrence range).run.run (state.over backdrop) =
      (match saved.patterns[range]? with
        | none => recognise backend occurrence range false
        | some pattern => consult backend occurrence range pattern).run.run (asked.over behind) :=
    same range ▸ ran'
  have isWarm : Warm saved asked (asked.over behind) := ⟨behind, rfl, same⟩
  rw [ran] at within stored ⊢
  rw [warmRan]
  cases held : state.cache.patterns[range]? with
  | some pattern =>
      -- Both recoveries know a pattern, and it is the same one.
      simp only [held] at within ⊢
      have blind := consult_blind stateless occurrence range pattern
      rw [(blind asked).2] at within
      rw [within range pattern held]
      exact blind.reuses saved asked _ isWarm
  | none =>
      simp only [held] at within stored ⊢
      have blind := recognise_blind stateless occurrence range
      rcases recognise_cases backend occurrence range asked with
        ⟨pattern, after, recognised, isStored⟩ | ⟨notHandler, unchanged⟩
      · -- The pattern is stored now, so the saved cache has it.
        rw [isStored] at within ⊢
        have isSaved : saved.patterns[range]? = some pattern :=
          within range pattern Std.TreeMap.getElem?_insert_self
        rw [isSaved]
        exact isWarm.consult_stored stateless recognised
      · -- No pattern becomes known, so the saved cache has none.
        rw [unchanged] at within stored ⊢
        have isUnsaved : saved.patterns[range]? = none := by
          rw [(blind asked).2] at stored
          simpa [Cache.knows, asked, held] using stored
        rw [isUnsaved]
        dsimp only
        rw [isWarm.recognise_unstored stateless notHandler]
        exact blind.reuses saved asked _ isWarm

/-! Taking a turn. -/

variable {settings : Settings} {walk : Walk}

/-- The range that a job asks the cache for in its next turn. -/
def asksFor? (walk : Walk) (grouping : Grouping) : Option HandlerRange :=
  match walk.phase with
  | .readingHandlers =>
      (walk.walker.current grouping).range?.map fun (first, last) => { first, last }
  | _ => none

/-- What a job does once it knows what a handler is. -/
def readAs (backend : Backend σ) (walk : Walk) (occurrence : Occurrence) (first : UInt64) :
    Verdict → RecoveryM σ (Walk × Option Find)
  | .handler pattern => readBy backend walk occurrence first pattern
  | .stackGuard => do
      note (.noEffect first)
      return (walk, none)
  | .junk => do
      note (.noEffect first)
      return (walk, none)
  | .unknown => readUnknown walk occurrence

/-- Once it is known what a handler is, the cache plays no part. -/
theorem readAs_blind (backend : Backend σ) (walk : Walk) (occurrence : Occurrence)
    (first : UInt64) (verdict : Verdict) :
    Blind (readAs backend walk occurrence first verdict) := by
  cases verdict with
  | handler pattern => exact .readBy _ _ _ _
  | stackGuard => exact (Blind.note _).bind fun _ => .pure _
  | junk => exact (Blind.note _).bind fun _ => .pure _
  | unknown => exact .readUnknown _ _

/-- Reads the handler of an occurrence, behind which a job is. -/
def readOccurrence (backend : Backend σ) (handedOut : Occurrence × Walk) :
    RecoveryM σ (Walk × Option Find) :=
  match handedOut.1.range? with
  | none => return (handedOut.2, none)
  | some (first, last) =>
      verdictOf backend handedOut.1 { first, last } >>=
        readAs backend handedOut.2 handedOut.1 first

/-- Reading the next handler is reading the occurrence that is handed out next. -/
theorem inspectHandler_eq (backend : Backend σ) (walk : Walk) :
    inspectHandler backend walk =
      nextOccurrence walk >>= readOccurrence backend := by
  rw [inspectHandler]
  refine bind_congr ?_
  rintro ⟨occurrence, walk⟩
  dsimp only [readOccurrence]
  cases occurrence.range? with
  | none => rfl
  | some range =>
      refine bind_congr fun verdict => ?_
      cases verdict <;> rfl

/-- An occurrence is read the same with saved patterns, if the one of its range is known after
reading it. -/
theorem readOccurrence_reuses (stateless : backend.IsStateless) {handedOut : Occurrence × Walk}
    (within : ((readOccurrence backend handedOut).run.run state).2.cache.Within saved)
    (stored : ∀ first last, handedOut.1.range? = some (first, last) →
      saved.knows { first, last } = true →
      ((readOccurrence backend handedOut).run.run state).2.cache.knows { first, last } = true) :
    Reuses saved (readOccurrence backend handedOut) state := by
  unfold readOccurrence at within stored ⊢
  split at within
  · exact (Blind.pure _).reuses _ _
  · rename_i first last isRange
    have blind := readAs_blind backend handedOut.2 handedOut.1 first
    have kept := cache_bind (fun verdict => (blind verdict).sameCache)
      (verdictOf backend handedOut.1 { first, last }) state
    have isStored := stored first last isRange
    simp only [isRange] at isStored
    rw [kept] at within isStored
    exact (verdictOf_reuses stateless within isStored).bind fun verdict after _ =>
      (blind verdict).reuses saved after

/-- A walk is inspected the same with saved patterns, if the one that it asks for is known
afterwards. -/
theorem inspect_reuses (stateless : backend.IsStateless)
    (within : ((inspect backend walk).run.run state).2.cache.Within saved)
    (stored : ∀ range ∈ asksFor? walk state.grouping, saved.knows range = true →
      ((inspect backend walk).run.run state).2.cache.knows range = true) :
    Reuses saved (inspect backend walk) state := by
  unfold inspect at within stored ⊢
  split at within
  · exact (Blind.inspectEntry stateless walk).reuses saved state
  · rename_i reading
    simp only [asksFor?, reading, inspectHandler_eq] at within stored ⊢
    refine ((Blind.nextOccurrence walk).reuses saved state).bind fun answer after ran => ?_
    rw [run_run_bind, ran] at within stored
    obtain ⟨isNext, rfl⟩ := (nextOccurrence_current walk state).of_ok ran
    refine readOccurrence_reuses stateless within fun first last isRange => ?_
    exact stored _ (Option.mem_map_of_mem _ (isNext ▸ isRange))
  · exact (Blind.pure _).reuses saved state
  · exact (Blind.throw _).reuses saved state

/-- A turn ends the same in a recovery that knows the patterns of a saved cache, if there is none
for the range that the turn asks for or the turn comes to know it. -/
theorem turn_reuses (stateless : backend.IsStateless) (unfinished : walk.phase ≠ .finished)
    (within : ((turn backend settings walk).run.run state).2.cache.Within saved)
    (stored : ∀ range ∈ asksFor? walk state.grouping, saved.knows range = true →
      ((turn backend settings walk).run.run state).2.cache.knows range = true) :
    Reuses saved (turn backend settings walk) state := by
  have blind := Blind.afterInspection stateless settings
  rw [turn_eq backend settings unfinished] at within stored ⊢
  rw [cache_bind fun answer => (blind answer).sameCache] at within stored
  exact (inspect_reuses stateless within stored).bind fun answer after _ =>
    (blind answer).reuses saved after

end VmRecovery.Flow

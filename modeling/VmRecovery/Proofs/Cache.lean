import VmRecovery.Cache

/-!
# What a cache knows

A cache is described by its patterns for ranges. Asking for a pattern changes counters only, and
storing one for a range that had none leaves all others in place.
-/

namespace VmRecovery.Cache

open Handler

/-- All patterns of a cache are patterns of another one. -/
def Within (cache other : Cache) : Prop :=
  ∀ (range : HandlerRange) (pattern : Pattern),
    cache.patterns[range]? = some pattern → other.patterns[range]? = some pattern

/-- Whether there is a pattern for a range. -/
def knows (cache : Cache) (range : HandlerRange) : Bool :=
  cache.patterns[range]?.isSome

theorem Within.refl (cache : Cache) : cache.Within cache :=
  fun _ _ held => held

theorem Within.trans {first second third : Cache} (within : first.Within second)
    (further : second.Within third) : first.Within third :=
  fun range pattern held => further range pattern (within range pattern held)

/-- Looking a range up changes counters only. -/
theorem lookup_eq (cache : Cache) (range : HandlerRange) :
    ∃ hits misses, cache.lookup range = (cache.patterns[range]?, { cache with hits, misses }) := by
  unfold lookup
  cases cache.patterns[range]? with
  | some pattern => exact ⟨_, _, rfl⟩
  | none => exact ⟨_, _, rfl⟩

theorem patterns_insert (cache : Cache) (range other : HandlerRange) (pattern : Pattern) :
    (cache.insert range pattern).patterns[other]? =
      if range = other then some pattern else cache.patterns[other]? := by
  rw [insert, Std.TreeMap.getElem?_insert]
  simp only [Std.LawfulEqOrd.compare_eq_iff_eq]

/-- A pattern for a range that had none adds to the cache. -/
theorem within_insert {cache : Cache} {range : HandlerRange} {pattern : Pattern}
    (missed : cache.patterns[range]? = none) : cache.Within (cache.insert range pattern) := by
  intro other held isHeld
  have different : range ≠ other := by
    rintro rfl
    simp [missed] at isHeld
  rw [patterns_insert, if_neg different]
  exact isHeld

end VmRecovery.Cache

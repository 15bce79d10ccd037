import VmRecovery.Handler.Pattern
import Std.Data.TreeMap

/-!
# The handler cache

Patterns that have been recognised, by the exact native range of the handler occurrence. Two
ranges that merely overlap are different handlers.
-/

namespace VmRecovery

open Handler

/-- The first and the last native address of a handler occurrence. -/
structure HandlerRange where
  first : UInt64
  last : UInt64
  deriving DecidableEq, Hashable, Repr, Inhabited

/-- Ranges are ordered by their first address, then by their last one. -/
instance : Ord HandlerRange where
  compare := compareLex (compareOn HandlerRange.first) (compareOn HandlerRange.last)

instance : Std.TransOrd HandlerRange :=
  inferInstanceAs
    (Std.TransCmp (compareLex (compareOn HandlerRange.first) (compareOn HandlerRange.last)))

/-- Only equal ranges compare as equal, so a map over ranges tells all of them apart. -/
instance : Std.LawfulEqOrd HandlerRange where
  eq_of_compare {left right} same := by
    have ends := Ordering.then_eq_eq.mp
      (show (compare left.first right.first).then (compare left.last right.last) = .eq from same)
    cases left
    cases right
    simp_all

/-- Recognised patterns and how often they were asked for. -/
structure Cache where
  patterns : Std.TreeMap HandlerRange Pattern := {}
  hits : Nat := 0
  misses : Nat := 0
  deriving Inhabited

namespace Cache

/-- Looks a range up and counts the hit or the miss. -/
def lookup (cache : Cache) (range : HandlerRange) : Option Pattern × Cache :=
  match cache.patterns[range]? with
  | some pattern => (some pattern, { cache with hits := cache.hits + 1 })
  | none => (none, { cache with misses := cache.misses + 1 })

/-- Stores a pattern; it takes the place of an earlier one for its range. -/
def insert (cache : Cache) (range : HandlerRange) (pattern : Pattern) : Cache :=
  { cache with patterns := cache.patterns.insert range pattern }

/-- The number of patterns. -/
def size (cache : Cache) : Nat :=
  cache.patterns.size

/-- The patterns in the order of their ranges. -/
def entries (cache : Cache) : List (HandlerRange × Pattern) :=
  cache.patterns.toList

/-- A cache of the given patterns, of which the last one for a range counts. -/
def ofEntries (entries : List (HandlerRange × Pattern)) : Cache :=
  entries.foldl (fun cache entry => cache.insert entry.1 entry.2) {}

end Cache

end VmRecovery

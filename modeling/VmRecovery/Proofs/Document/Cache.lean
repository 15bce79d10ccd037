import VmRecovery.Document.Cache
import VmRecovery.Proofs.Cache
import VmRecovery.Proofs.Document.Pattern

/-!
# Stored caches

A cache that is read back from its document holds the same pattern for every range
(`ofDocument_document`, `patterns_ofEntries_entries`). Its hits and misses are counted anew.
-/

namespace VmRecovery.Cache

open Handler Json

/-- The fields of an entry make it up. -/
theorem entryOfJson?_of_record? {json first last written : Json} {range : HandlerRange}
    {pattern : Pattern}
    (fields : json.record? ["start", "end", "pattern"] =
      some [some first, some last, some written])
    (isFirst : first.uint64? = some range.first) (isLast : last.uint64? = some range.last)
    (isPattern : Pattern.ofNestedJson? entryNesting written = some pattern) :
    entryOfJson? json = some (range, pattern) := by
  simp [entryOfJson?, fields, required?, isFirst, isLast, isPattern]

theorem entryOfJson?_reread (entry : HandlerRange × Pattern) :
    entryOfJson? (reread (entryToJson entry)) = some entry := by
  obtain ⟨range, pattern⟩ := entry
  have fields : (reread (entryToJson (range, pattern))).record? ["start", "end", "pattern"] =
      some [some (nat range.first.toNat), some (nat range.last.toNat),
        some (reread pattern.toJson)] := by
    rw [entryToJson, record?_reread (by simp)]
    simp [List.lookup_cons, reread_nat]
  exact entryOfJson?_of_record? fields (uint64?_nat _) (uint64?_nat _)
    (pattern.ofNestedJson?_reread (by decide))

/-- The document of a cache is read as a cache of its entries. -/
theorem ofDocument_document (cache : Cache) :
    ofDocument cache.document = .ok (ofEntries cache.entries) := by
  rw [ofDocument, document, parse?_pretty, Option.bind_some, ofJson?, toJson,
    list?_reread entryOfJson?_reread]
  rfl

/-- Of several patterns for one range the last one counts. -/
theorem patterns_foldl_insert (entries : List (HandlerRange × Pattern)) (cache : Cache)
    (range : HandlerRange) :
    (entries.foldl (fun cache entry => cache.insert entry.1 entry.2) cache).patterns[range]? =
      (entries.reverse.lookup range).or cache.patterns[range]? := by
  induction entries generalizing cache with
  | nil => rfl
  | cons entry entries inductionHypothesis =>
      rw [List.foldl_cons, inductionHypothesis, patterns_insert, List.reverse_cons,
        List.lookup_append, Option.or_assoc]
      congr 1
      obtain ⟨own, pattern⟩ := entry
      by_cases same : own = range
      · simp [same]
      · have other : (range == own) = false := beq_false_of_ne (Ne.symm same)
        simp [List.lookup_cons, same, other]

/-- A cache that is put together from the entries of another one holds the same patterns. -/
theorem patterns_ofEntries_entries (cache : Cache) (range : HandlerRange) :
    (ofEntries cache.entries).patterns[range]? = cache.patterns[range]? := by
  have isEntry : ∀ pattern, (range, pattern) ∈ cache.entries ↔
      cache.patterns[range]? = some pattern :=
    fun pattern => Std.TreeMap.mem_toList_iff_getElem?_eq_some
  rw [ofEntries, patterns_foldl_insert]
  cases found : cache.entries.reverse.lookup range with
  | some pattern =>
      obtain ⟨before, behind, split, -⟩ := List.lookup_eq_some_iff.mp found
      have member : (range, pattern) ∈ cache.entries := by
        rw [← List.mem_reverse, split]
        simp
      rw [(isEntry pattern).mp member]
      rfl
  | none =>
      cases held : cache.patterns[range]? with
      | none => rfl
      | some pattern =>
          have member := List.mem_reverse.mpr ((isEntry pattern).mpr held)
          have different := List.lookup_eq_none_iff.mp found _ member
          exact absurd rfl (bne_iff_ne.mp different)

end VmRecovery.Cache

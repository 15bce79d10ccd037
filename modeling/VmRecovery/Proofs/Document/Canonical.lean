import VmRecovery.Proofs.Document.Cache

/-!
# The canonical document of a cache

A cache has one document, which tells its patterns in the order of their ranges and nothing else:
two caches have the same document exactly if they hold the same patterns
(`document_eq_iff`). A document that tells several patterns for one range is accepted as well, and
the last of them counts (`patterns_ofEntries`). `document_keeps_patterns` puts both together.
-/

namespace VmRecovery

open Handler

/-- A range begins before another one, or begins where it does and ends before it. -/
def HandlerRange.Precedes (range other : HandlerRange) : Prop :=
  range.first < other.first ∨ range.first = other.first ∧ range.last < other.last

theorem HandlerRange.precedes_iff {range other : HandlerRange} :
    range.Precedes other ↔ compare range other = .lt := by
  have lexicographic : compare range other =
      (compare range.first other.first).then (compare range.last other.last) := rfl
  rw [lexicographic, Ordering.then_eq_lt, Std.compare_eq_lt, Std.compare_eq_lt,
    Std.compare_eq_iff_eq, Precedes]

namespace Cache

/-- The patterns with their ranges that a document tells, as they stand there. -/
def records? (document : String) : Option (List (HandlerRange × Pattern)) :=
  (Json.parse? document).bind fun json => json.list? entryOfJson?

/-- The last pattern that is told for a range. -/
def lastFor? (range : HandlerRange) (records : List (HandlerRange × Pattern)) : Option Pattern :=
  ((records.filter fun record => record.1 == range).getLast?).map Prod.snd

/-- A list of patterns is told by its document as it stands. -/
theorem records?_pretty (records : List (HandlerRange × Pattern)) :
    records? (Json.array (records.map entryToJson)).pretty = some records := by
  rw [records?, Json.parse?_pretty, Option.bind_some, Json.list?_reread entryOfJson?_reread]

/-- A document is read exactly if it tells patterns. -/
theorem ofDocument_eq (document : String) :
    ofDocument document =
      match records? document with
      | some records => .ok (ofEntries records)
      | none => .error .malformedDocument := by
  rw [ofDocument, records?]
  cases Json.parse? document with
  | none => rfl
  | some json =>
      simp only [Option.bind_some, ofJson?]
      cases json.list? entryOfJson? with
      | none => rfl
      | some records => rfl

theorem lastFor?_eq (range : HandlerRange) (records : List (HandlerRange × Pattern)) :
    lastFor? range records = records.reverse.lookup range := by
  rw [lastFor?, List.getLast?_filter]
  generalize records.reverse = records
  induction records with
  | nil => rfl
  | cons record records inductionHypothesis =>
      rw [List.find?_cons, List.lookup_cons, Bool.beq_comm]
      cases range == record.1 with
      | true => rfl
      | false => exact inductionHypothesis

/-- Of several patterns for one range the last one is held. -/
theorem patterns_ofEntries (records : List (HandlerRange × Pattern)) (range : HandlerRange) :
    (ofEntries records).patterns[range]? = lastFor? range records := by
  rw [ofEntries, patterns_foldl_insert, lastFor?_eq]
  exact Option.or_none

/-- Storing patterns counts neither hits nor misses. -/
theorem counters_ofEntries (records : List (HandlerRange × Pattern)) :
    (ofEntries records).hits = 0 ∧ (ofEntries records).misses = 0 := by
  have kept : ∀ cache : Cache,
      (records.foldl (fun cache entry => cache.insert entry.1 entry.2) cache).hits = cache.hits ∧
      (records.foldl (fun cache entry => cache.insert entry.1 entry.2) cache).misses =
        cache.misses := by
    induction records with
    | nil => exact fun _ => ⟨rfl, rfl⟩
    | cons record records inductionHypothesis =>
        exact fun cache => inductionHypothesis (cache.insert record.1 record.2)
  exact kept {}

theorem entries_pairwise (cache : Cache) :
    cache.entries.Pairwise fun earlier later => earlier.1.Precedes later.1 :=
  Std.TreeMap.ordered_keys_toList.imp HandlerRange.precedes_iff.mpr

theorem mem_entries {cache : Cache} {range : HandlerRange} {pattern : Pattern} :
    (range, pattern) ∈ cache.entries ↔ cache.patterns[range]? = some pattern :=
  Std.TreeMap.mem_toList_iff_getElem?_eq_some

/-- The entries are determined by what is held, not by how it came there. -/
theorem entries_eq {cache other : Cache}
    (same : ∀ range : HandlerRange, cache.patterns[range]? = other.patterns[range]?) :
    cache.entries = other.entries :=
  Std.TreeMap.Equiv.toList_eq (.of_forall_constGet?_eq same)

/-- Two caches have the same document exactly if they hold the same patterns. -/
theorem document_eq_iff {cache other : Cache} :
    cache.document = other.document ↔
      ∀ range : HandlerRange, cache.patterns[range]? = other.patterns[range]? := by
  constructor
  · intro same range
    have read : ofDocument cache.document = ofDocument other.document := congrArg ofDocument same
    rw [ofDocument_document, ofDocument_document] at read
    have sameEntries : ofEntries cache.entries = ofEntries other.entries := Except.ok.inj read
    rw [← patterns_ofEntries_entries cache, sameEntries, patterns_ofEntries_entries]
  · intro same
    rw [document, toJson, entries_eq same]
    rfl

/-- A cache that is read back from its document holds the same patterns, counts its use anew and
has the same document. This document tells the patterns held, each once and in the order of their
ranges, and it is the document of those caches only that hold the same patterns. Of any document
that tells patterns, several for one range among them, the last pattern for each range is held; a
document that tells none is refused, and there is one for every list of patterns. -/
theorem document_keeps_patterns (cache other : Cache) (document : String)
    (records : List (HandlerRange × Pattern)) :
    (∃ reread, ofDocument cache.document = .ok reread ∧
        (∀ range : HandlerRange, reread.patterns[range]? = cache.patterns[range]?) ∧
        reread.hits = 0 ∧ reread.misses = 0 ∧ reread.document = cache.document) ∧
      (∃ told, records? cache.document = some told ∧
        told.Pairwise (fun earlier later => earlier.1.Precedes later.1) ∧
        ∀ range pattern, (range, pattern) ∈ told ↔ cache.patterns[range]? = some pattern) ∧
      (cache.document = other.document ↔
        ∀ range : HandlerRange, cache.patterns[range]? = other.patterns[range]?) ∧
      (match records? document with
        | some told => ∃ reread, ofDocument document = .ok reread ∧
            (∀ range : HandlerRange, reread.patterns[range]? = lastFor? range told) ∧
            reread.hits = 0 ∧ reread.misses = 0
        | none => ofDocument document = .error .malformedDocument) ∧
      ∃ written, records? written = some records := by
  refine ⟨?_, ?_, document_eq_iff, ?_, _, records?_pretty records⟩
  · obtain ⟨hits, misses⟩ := counters_ofEntries cache.entries
    exact ⟨ofEntries cache.entries, ofDocument_document cache, patterns_ofEntries_entries cache,
      hits, misses, document_eq_iff.mpr (patterns_ofEntries_entries cache)⟩
  · exact ⟨cache.entries, records?_pretty cache.entries, cache.entries_pairwise,
      fun _ _ => mem_entries⟩
  · rw [ofDocument_eq document]
    cases records? document with
    | none => rfl
    | some told =>
        obtain ⟨hits, misses⟩ := counters_ofEntries told
        exact ⟨ofEntries told, rfl, patterns_ofEntries told, hits, misses⟩

end Cache

end VmRecovery

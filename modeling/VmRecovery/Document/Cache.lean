import VmRecovery.Cache
import VmRecovery.Document.Pattern
import VmRecovery.Document.Settings
import VmRecovery.Json.Writer

/-!
# Documents of the handler cache

A cache is stored as the list of its patterns in the order of their ranges. The counts of hits
and misses are not stored.
-/

namespace VmRecovery

open Handler

/-- The JSON form of a range. -/
def HandlerRange.toJson (range : HandlerRange) : Json :=
  .record [("start", .nat range.first.toNat), ("end", .nat range.last.toNat)]

/-- Reads a range. -/
def HandlerRange.ofJson? (json : Json) : Option HandlerRange := do
  match ← json.record? ["start", "end"] with
  | [first, last] =>
      some
        { first := ← Json.required? Json.uint64? first
          last := ← Json.required? Json.uint64? last }
  | _ => none

namespace Cache

/-- The JSON form of a pattern with its range. -/
def entryToJson (entry : HandlerRange × Pattern) : Json :=
  .record
    [("start", .nat entry.1.first.toNat), ("end", .nat entry.1.last.toNat),
      ("pattern", entry.2.toJson)]

/-- The number of arrays and objects that a pattern in a cache document lies in. -/
def entryNesting : Nat := 2

/-- Reads a pattern with its range. -/
def entryOfJson? (json : Json) : Option (HandlerRange × Pattern) := do
  match ← json.record? ["start", "end", "pattern"] with
  | [first, last, pattern] =>
      let range : HandlerRange :=
        { first := ← Json.required? Json.uint64? first
          last := ← Json.required? Json.uint64? last }
      return (range, ← Json.required? (Pattern.ofNestedJson? entryNesting) pattern)
  | _ => none

/-- The JSON form of a cache. -/
def toJson (cache : Cache) : Json :=
  .array (cache.entries.map entryToJson)

/-- The document of a cache. -/
def document (cache : Cache) : String :=
  cache.toJson.pretty

/-- Reads a cache. Of several patterns for one range the last one counts. -/
def ofJson? (json : Json) : Option Cache :=
  (json.list? entryOfJson?).map ofEntries

/-- Reads a cache from a document. -/
def ofDocument (document : String) : Except Fault Cache :=
  match (Json.parse? document).bind ofJson? with
  | some cache => .ok cache
  | none => .error .malformedDocument

/-- Reads a cache from a file. -/
def load (files : Files) (path : String) : Except Fault Cache :=
  files.text path >>= ofDocument

/-- Writes a cache to a file. -/
def save (cache : Cache) (files : Files) (path : String) : Except Fault Files :=
  files.store path cache.document

end Cache

end VmRecovery

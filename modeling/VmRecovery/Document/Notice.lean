import VmRecovery.Json.Value
import VmRecovery.Notice

/-!
# Documents of notices
-/

namespace VmRecovery

/-- The JSON form of a field of a notice. -/
def Detail.toJson : Detail → Json
  | count value => .nat value
  | flag value => .bool value
  | text value => .string value

/-- The JSON form of a notice: its level, its wording and its fields. -/
def Notice.toJson (notice : Notice) : Json :=
  .array
    [.string notice.level.name, .string notice.message,
      .record (notice.fields.map fun (name, value) => (name, value.toJson))]

end VmRecovery

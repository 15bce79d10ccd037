import VmRecovery.Document.Pattern
import VmRecovery.Json.Schema
import VmRecovery.Proofs.Json.Parsing

/-!
# Typed data in written documents

What is left of a written number, text, list or record still reads as the data it was written
from. A number that fits into 64 bits and a text can also be kept while the kind of a value is
not known yet; of an array or an object it takes the room for one more level.
-/

namespace VmRecovery.Json

variable {α : Type}

/-! Numbers. -/

/-- A written number is read as the number. -/
theorem reread_nat (number : Nat) : reread (nat number) = nat number := rfl

/-- A natural number is an integer. -/
theorem int?_nat (number : Nat) : (nat number).int? = some (number : Int) := by
  have positive : decide ((number : Int) < 0) = false := decide_eq_false (by omega)
  simp [nat, int, int?, Numeral.ofInt, Numeral.toInt?, Numeral.isIntegral, positive]

/-- A natural number below a bound is read as one. -/
theorem natBelow?_nat {number bound : Nat} (below : number < bound) :
    (nat number).natBelow? bound = some number := by
  simp [natBelow?, int?_nat, below]

/-- A 64-bit word is read as itself. -/
@[simp] theorem uint64?_nat (word : UInt64) : (nat word.toNat).uint64? = some word := by
  simp [uint64?, natBelow?_nat word.toNat_lt_size]

/-- A byte is read as itself. -/
@[simp] theorem uint8?_nat (byte : UInt8) : (nat byte.toNat).uint8? = some byte := by
  simp [uint8?, natBelow?_nat byte.toNat_lt_size]

/-- Rounding at most doubles a number. -/
theorem roundToDouble_le (number : Nat) : roundToDouble number ≤ 2 * number := by
  rcases Nat.eq_zero_or_pos number with rfl | positive
  · decide
  · have unit : Nat.pow 2 (number.log2 - 52) ≤ number :=
      Nat.le_trans (Nat.pow_le_pow_right (by decide) (Nat.sub_le number.log2 52))
        (Nat.log2_self_le (Nat.ne_of_gt positive))
    have below : number / Nat.pow 2 (number.log2 - 52) * Nat.pow 2 (number.log2 - 52) ≤ number :=
      Nat.div_mul_le_self _ _
    unfold roundToDouble
    dsimp only
    split
    · omega
    · rw [Nat.add_mul, Nat.one_mul]
      omega

/-- A number that fits into 64 bits is in the range of doubles. -/
theorem isFinite_ofInt {number : Nat} (fits : number < UInt64.size) :
    (Numeral.ofInt number).isFinite = true := by
  have significant : (Numeral.ofInt number).significant = (number, 0) := by
    rw [Numeral.significant, Numeral.whole, Numeral.placeDigits]
    simp [Numeral.ofInt, Numeral.leadingDigits, fits, Numeral.appendDigits]
  have first := roundToDouble_le number
  have second := roundToDouble_le (roundToDouble number * roundToDouble 1)
  have unit : roundToDouble 1 = 1 := by decide
  have limit : 4 * UInt64.size ≤ doubleLimit := by decide +kernel
  have small : roundToDouble (roundToDouble number * roundToDouble (Nat.pow 10 (0 : Int).toNat)) <
      doubleLimit := by
    change roundToDouble (roundToDouble number * roundToDouble 1) < doubleLimit
    rw [unit, Nat.mul_one] at second ⊢
    omega
  rw [Numeral.isFinite, significant]
  dsimp only
  split
  · rfl
  · rw [if_neg (by decide)]
    exact decide_eq_true small

/-! Records. -/

/-- What is left of a list is what is left of its items. -/
theorem rereadItems_eq_map (items : List Json) : rereadItems items = items.map reread := by
  induction items with
  | nil => rfl
  | cons item rest inductionHypothesis => rw [rereadItems, inductionHypothesis, List.map_cons]

/-- What is left of an object is what is left of its names and values. -/
theorem rereadFields_eq_map (fields : List (Text × Json)) :
    rereadFields fields = fields.map fun field => (field.1.reread, reread field.2) := by
  induction fields with
  | nil => rfl
  | cons field rest inductionHypothesis => rw [rereadFields, inductionHypothesis, List.map_cons]

/-- What is left of the fields of a record. -/
def leftFields (fields : List (String × Json)) : List (Text × Json) :=
  fields.map fun field => (Text.reread { chars? := some field.1 }, reread field.2)

/-- What is left of a record is an object with what is left of its fields. -/
theorem reread_record (fields : List (String × Json)) :
    reread (record fields) = object (leftFields fields) := by
  rw [record, reread, rereadFields_eq_map, List.map_map]
  rfl

/-- The values under a name are what is left of those that were written under it. -/
theorem valuesOf_leftFields (name : String) (fields : List (String × Json)) :
    valuesOf name (leftFields fields) =
      (fields.filter fun field => field.1 == name).map fun field => reread field.2 := by
  have same : ∀ field : String × Json,
      ((Text.reread { chars? := some field.1 }).chars? == some name) = (field.1 == name) := by
    intro field
    simp [Text.chars?_reread]
  simp only [valuesOf, leftFields, List.filter_map, List.map_map, Function.comp_def, same]

/-- A field whose name does not come twice is found by its name. -/
theorem field?_leftFields {fields : List (String × Json)}
    (distinct : (fields.map Prod.fst).Nodup) (name : String) :
    field? (leftFields fields) name = some ((fields.lookup name).map reread) := by
  rw [field?, valuesOf_leftFields]
  induction fields with
  | nil => rfl
  | cons field rest inductionHypothesis =>
      obtain ⟨key, value⟩ := field
      obtain ⟨fresh, others⟩ := List.nodup_cons.mp distinct
      rw [List.lookup_cons]
      by_cases isKey : key = name
      · subst isKey
        have none : rest.filter (fun field => field.1 == key) = [] := by
          refine List.filter_eq_nil_iff.mpr fun field member same => fresh ?_
          exact List.mem_map.mpr ⟨field, member, beq_iff_eq.mp same⟩
        simp [none]
      · have other : (name == key) = false := by simpa using fun same => isKey same.symm
        simpa [isKey, other] using inductionHypothesis others

/-- The fields of a written record are read in the order of the names asked for. -/
theorem record?_reread {fields : List (String × Json)} (distinct : (fields.map Prod.fst).Nodup)
    (names : List String) :
    (reread (record fields)).record? names =
      some (names.map fun name => (fields.lookup name).map reread) := by
  have keys : keysAreTexts (leftFields fields) = true := by
    simp [keysAreTexts, leftFields, Text.chars?_reread]
  rw [reread_record, record?, fields?, keys]
  induction names with
  | nil => rfl
  | cons name names inductionHypothesis =>
      simp only [if_true] at inductionHypothesis ⊢
      rw [List.mapM_cons, field?_leftFields distinct, inductionHypothesis]
      rfl

/-! Texts and lists. -/

/-- A written text is read as itself. -/
@[simp] theorem string?_reread (text : String) : (reread (string text)).string? = some text :=
  Text.chars?_reread _

/-- Items that are read one by one are read together. -/
theorem list?_reread {item? : Json → Option α} {write : α → Json}
    (each : ∀ item, item? (reread (write item)) = some item) (items : List α) :
    (reread (array (items.map write))).list? item? = some items := by
  rw [reread, rereadItems_eq_map, list?]
  induction items with
  | nil => rfl
  | cons item items inductionHypothesis =>
      rw [List.map_cons, List.map_cons, List.mapM_cons, each, inductionHypothesis]
      rfl

/-- A choice is written as its name. -/
theorem choice?_reread (name : String) : (reread (string name)).choice? = some (name, none) := by
  rw [string, reread, choice?, Text.chars?_reread]
  rfl

/-! What can be kept. -/

/-- A number that fits into 64 bits can be kept at any level. -/
theorem isKept_nat {number : Nat} (fits : number < UInt64.size) (room : Nat) :
    (nat number).isKept room = true := by
  rw [nat, int, isKept]
  exact isFinite_ofInt fits

/-- A text can be kept at any level. -/
theorem isKept_string (text : String) (room : Nat) :
    (reread (string text)).isKept room = true := by
  rw [string, reread, isKept, Text.chars?_reread]
  rfl

/-- A record takes one level more than its values. -/
theorem isKept_record {fields : List (String × Json)} {room : Nat}
    (each : ∀ field ∈ fields, (reread field.2).isKept room = true) :
    (reread (record fields)).isKept (room + 1) = true := by
  have kept : fieldsAreKept room (leftFields fields) = true := by
    induction fields with
    | nil => rfl
    | cons field rest inductionHypothesis =>
        have others := inductionHypothesis
          fun other member => each other (List.mem_cons_of_mem _ member)
        have here := each field List.mem_cons_self
        rw [leftFields, List.map_cons, fieldsAreKept, here, Text.chars?_reread]
        exact others
  rw [reread_record, isKept]
  exact kept

/-- An array takes one level more than its items. -/
theorem isKept_array {items : List Json} {room : Nat}
    (each : ∀ item ∈ items, (reread item).isKept room = true) :
    (reread (array items)).isKept (room + 1) = true := by
  have kept : areKept room (rereadItems items) = true := by
    induction items with
    | nil => rfl
    | cons item rest inductionHypothesis =>
        rw [rereadItems, areKept, each item List.mem_cons_self,
          inductionHypothesis fun other member => each other (List.mem_cons_of_mem _ member)]
        rfl
  rw [reread, isKept]
  exact kept

end VmRecovery.Json

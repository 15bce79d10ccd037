import VmRecovery.Proofs.Json.Schema

/-!
# Written patterns

A pattern of any kind is read back from what is left of it in a document (`ofNestedJson?_reread`).
Its kind stands beside its own fields, so the fields are read only once the kind is known; they
are plain enough to be kept until then.
-/

namespace VmRecovery

open Json

/-- A written pair is read back. -/
theorem RegisterPair.ofJson?_reread (pair : RegisterPair) :
    RegisterPair.ofJson? (reread pair.toJson) = some pair := by
  rw [RegisterPair.toJson, RegisterPair.ofJson?, record?_reread (by simp)]
  simp [required?, List.lookup_cons]

/-- A written segment is read back, also after it was kept. -/
theorem Segment.ofKeptJson?_reread (segment : Segment) :
    Segment.ofKeptJson? (reread segment.toJson) = some segment := by
  cases segment
  rw [Segment.toJson, Segment.ofKeptJson?, choice?_reread]
  rfl

/-- A segment that may be missing is read back. -/
theorem Segment.nullable?_reread (segment : Option Segment) :
    nullable? Segment.ofKeptJson? (some (reread (.optional Segment.toJson segment))) =
      some segment := by
  cases segment with
  | none => rfl
  | some segment =>
      have read := Segment.ofKeptJson?_reread segment
      cases segment
      change (Segment.ofKeptJson? (reread (Segment.toJson .fs))).map some = _
      rw [read]
      rfl

namespace Handler

/-- The name of a binary operation is read back, also after it was kept. -/
theorem BinaryOp.ofKeptJson?_reread (op : BinaryOp) :
    BinaryOp.ofKeptJson? (reread (.string op.name)) = some op := by
  rw [BinaryOp.ofKeptJson?, choice?_reread]
  cases op <;> rfl

/-- The name of a double shift is read back, also after it was kept. -/
theorem DoubleShiftOp.ofKeptJson?_reread (op : DoubleShiftOp) :
    DoubleShiftOp.ofKeptJson? (reread (.string op.name)) = some op := by
  rw [DoubleShiftOp.ofKeptJson?, choice?_reread]
  cases op <;> rfl

namespace Pattern

/-- The kind of a written pattern is told apart from its own fields. -/
theorem split?_reread {fields : List (String × Json)}
    (distinct : ("kind" :: fields.map Prod.fst).Nodup) (kind : String) :
    split? (reread (.record (("kind", .string kind) :: fields))) =
      some (kind, reread (.record fields)) := by
  have found : field? (leftFields (("kind", .string kind) :: fields)) "kind" =
      some (some (reread (.string kind))) := by
    rw [field?_leftFields (by rwa [List.map_cons])]
    rfl
  have others : (leftFields (("kind", .string kind) :: fields)).filter
      (fun field => field.1.chars? != some "kind") = leftFields fields := by
    have fresh := (List.nodup_cons.mp distinct).1
    rw [leftFields, List.map_cons, List.filter_cons_of_neg (by simp [Text.chars?_reread])]
    refine List.filter_eq_self.mpr fun field member => ?_
    obtain ⟨field', member', rfl⟩ := List.mem_map.mp member
    have other : field'.1 ≠ "kind" := fun same => fresh (List.mem_map.mpr ⟨field', member', same⟩)
    simpa [Text.chars?_reread] using other
  rw [reread_record, split?, found, others]
  simp [reread_record]

/-- No two fields of a written pattern have the same name, the kind included. -/
theorem fieldsJson_distinct (pattern : Pattern) :
    ("kind" :: pattern.fieldsJson.map Prod.fst).Nodup := by
  cases pattern <;> simp [fieldsJson]

/-- The fields of a pattern lie in two levels at most. -/
theorem isKept_fieldsJson (pattern : Pattern) (room : Nat) :
    (reread (.record pattern.fieldsJson)).isKept (room + 2) = true := by
  have size : ∀ byte : UInt8, (nat byte.toNat).isKept (room + 1) = true := fun byte =>
    isKept_nat (Nat.lt_trans byte.toNat_lt_size (by decide)) _
  have address : ∀ word : UInt64, (nat word.toNat).isKept (room + 1) = true := fun word =>
    isKept_nat word.toNat_lt_size _
  have text : ∀ text, (reread (.string text)).isKept (room + 1) = true := fun text =>
    isKept_string text _
  have pair : ∀ pair : RegisterPair, (reread pair.toJson).isKept (room + 1) = true := by
    intro pair
    refine isKept_record fun field member => ?_
    simp only [List.mem_cons, List.not_mem_nil, or_false] at member
    rcases member with rfl | rfl
    · exact isKept_string _ _
    · exact isKept_string _ _
  have segment : ∀ segment : Option Segment,
      (reread (.optional Segment.toJson segment)).isKept (room + 1) = true := by
    intro segment
    cases segment with
    | none => rfl
    | some segment =>
        cases segment
        exact isKept_string _ _
  have texts : ∀ texts : List String,
      (reread (.array (texts.map .string))).isKept (room + 1) = true := by
    intro texts
    refine isKept_array fun item member => ?_
    obtain ⟨text, -, rfl⟩ := List.mem_map.mp member
    exact isKept_string _ _
  refine isKept_record ?_
  cases pattern <;>
    simp [fieldsJson, reread_nat, size, address, text, pair, segment, texts]

/-- The fields of a pattern are read back once its kind is known. -/
theorem ofContent?_reread (pattern : Pattern) :
    ofContent? pattern.name (reread (.record pattern.fieldsJson)) = some pattern := by
  have distinct := (List.nodup_cons.mp pattern.fieldsJson_distinct).2
  cases pattern with
  | popReg size store pair =>
      rw [name, ofContent?, popRegOfContent?, record?_reread distinct]
      simp [fieldsJson, List.lookup_cons, required?, reread_nat, RegisterPair.ofJson?_reread]
  | pushReg size load =>
      rw [name, ofContent?, pushRegOfContent?, record?_reread distinct]
      simp [fieldsJson, List.lookup_cons, required?, reread_nat]
  | pushImm size load store =>
      rw [name, ofContent?, pushImmOfContent?, record?_reread distinct]
      simp [fieldsJson, List.lookup_cons, required?, reread_nat]
  | readMem size segment =>
      rw [name, ofContent?, readMemOfContent?, record?_reread distinct]
      simp [fieldsJson, List.lookup_cons, required?, reread_nat, Segment.nullable?_reread]
  | binary op size =>
      rw [name, ofContent?, operationOfContent?, record?_reread distinct]
      simp [fieldsJson, List.lookup_cons, required?, reread_nat, BinaryOp.ofKeptJson?_reread]
  | doubleShift op size =>
      rw [name, ofContent?, operationOfContent?, record?_reread distinct]
      simp [fieldsJson, List.lookup_cons, required?, reread_nat, DoubleShiftOp.ofKeptJson?_reread]
  | exit restored =>
      rw [name, ofContent?, exitOfContent?, record?_reread distinct]
      simp [fieldsJson, List.lookup_cons, required?, list?_reread]
  | pushVsp size | writeMem size | mul size =>
      rw [name, ofContent?, sizedOfContent?, record?_reread distinct]
      simp [fieldsJson, List.lookup_cons, required?, reread_nat]
  | cpuid | jmpConst | jmp | writeVsp | popfd => rfl

/-- A written pattern is read back wherever it lies in a document. -/
theorem ofNestedJson?_reread (pattern : Pattern) {nesting : Nat}
    (shallow : nesting + 2 ≤ maxNesting) :
    ofNestedJson? nesting (reread pattern.toJson) = some pattern := by
  have kept : (reread (.record pattern.fieldsJson)).isKept (maxNesting - nesting) = true := by
    have room : maxNesting - nesting = maxNesting - nesting - 2 + 2 := by omega
    rw [room]
    exact pattern.isKept_fieldsJson _
  rw [toJson, ofNestedJson?, split?_reread pattern.fieldsJson_distinct]
  simp [kept, pattern.ofContent?_reread]

end Pattern

end Handler

end VmRecovery

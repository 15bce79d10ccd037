import VmRecovery.Document.Pattern

/-!
# Documents of recovered instructions
-/

namespace VmRecovery

/-- The JSON form of a spilled value. -/
def SavedValue.toJson : SavedValue → Json
  | constant value => .tagged "Constant" (.nat value.toNat)
  | register name => .tagged "Register" (.string name)

/-- Reads a spilled value. -/
def SavedValue.ofJson? (json : Json) : Option SavedValue := do
  match ← json.choice? with
  | ("Constant", some content) => return .constant (← content.uint64?)
  | ("Register", some content) => return .register (← content.string?)
  | _ => none

namespace Operation

/-- The operations without operands and their names in a document. -/
def bareTable : List (String × Operation) :=
  [("PushVsp", .pushVsp), ("WriteVsp", .writeVsp), ("WriteMem", .writeMem), ("Add", .add),
    ("Nor", .nor), ("Nand", .nand), ("Shl", .shl), ("Shr", .shr), ("Shld", .shld),
    ("Shrd", .shrd), ("Mul", .mul), ("Cpuid", .cpuid), ("Jmp", .jmp), ("JmpConst", .jmpConst),
    ("Popfd", .popfd), ("Unknown", .unknown)]

/-- The name of an operation without operands. -/
def bareName (operation : Operation) : String :=
  ((bareTable.find? fun entry => entry.2 == operation).map Prod.fst).getD ""

/-- The JSON form of an operation. -/
def toJson : Operation → Json
  | init saved =>
      .tagged "Init" (.record [("saved", .array (saved.map SavedValue.toJson))])
  | pushReg offset => .tagged "PushReg" (.record [("offset", .nat offset.toNat)])
  | pushImm value => .tagged "PushImm" (.record [("value", .nat value.toNat)])
  | popReg offset pair =>
      .tagged "PopReg" (.record [("offset", .nat offset.toNat), ("pair", pair.toJson)])
  | readMem segment =>
      .tagged "ReadMem" (.record [("segment", .optional Segment.toJson segment)])
  | exit restored => .tagged "Exit" (.record [("restored", .array (restored.map .string))])
  | exitCall target => .tagged "ExitCall" (.record [("target", .nat target.toNat)])
  | operation => .string operation.bareName

/-- Reads an operation whose only operand is a field. -/
def ofField? {α : Type} (name : String) (operation : α → Operation) (value? : Json → Option α)
    (content : Json) : Option Operation := do
  match ← content.record? [name] with
  | [field] => return operation (← Json.required? value? field)
  | _ => none

/-- Reads a pop into the save area. -/
def popRegOfJson? (content : Json) : Option Operation := do
  match ← content.record? ["offset", "pair"] with
  | [offset, pair] =>
      return .popReg (← Json.required? Json.uint64? offset)
        (← Json.required? RegisterPair.ofJson? pair)
  | _ => none

/-- Reads a read of memory. -/
def readMemOfJson? (content : Json) : Option Operation := do
  match ← content.record? ["segment"] with
  | [segment] => return .readMem (← Json.nullable? Segment.ofJson? segment)
  | _ => none

/-- Reads an operation. -/
def ofJson? (json : Json) : Option Operation := do
  match ← json.choice? with
  | ("Init", some content) => ofField? "saved" .init (Json.list? SavedValue.ofJson?) content
  | ("PushReg", some content) => ofField? "offset" .pushReg Json.uint64? content
  | ("PushImm", some content) => ofField? "value" .pushImm Json.uint64? content
  | ("PopReg", some content) => popRegOfJson? content
  | ("ReadMem", some content) => readMemOfJson? content
  | ("Exit", some content) => ofField? "restored" .exit (Json.list? Json.string?) content
  | ("ExitCall", some content) => ofField? "target" .exitCall Json.uint64? content
  | (name, content) => do
      Json.bare? content
      bareTable.lookup name

end Operation

/-- The JSON form of an instruction. -/
def Instruction.toJson (instruction : Instruction) : Json :=
  .record
    [("address", instruction.position.toJson), ("size", .nat instruction.size.toNat),
      ("kind", instruction.operation.toJson)]

/-- Reads an instruction. -/
def Instruction.ofJson? (json : Json) : Option Instruction := do
  match ← json.record? ["address", "size", "kind"] with
  | [address, size, kind] =>
      some
        { position := ← Json.required? Position.ofJson? address
          size := ← Json.required? Json.uint8? size
          operation := ← Json.required? Operation.ofJson? kind }
  | _ => none

end VmRecovery

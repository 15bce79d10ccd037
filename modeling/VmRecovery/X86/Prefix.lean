import VmRecovery.X86.Width

/-!
# Instruction prefixes

Any number of prefix bytes may precede an opcode: overrides of the operand width, of the address
width and of the segment, lock and repeat. In 64-bit code an extension byte directly before the
opcode widens the operands and the register numbers; in front of another prefix it is void.
-/

namespace VmRecovery.X86

/-- The prefixes of an instruction. -/
structure Prefixes where
  operandOverride : Bool := false
  addressOverride : Bool := false
  lock : Bool := false
  repeated : Bool := false
  segment : Option String := none
  /-- The four bits of the extension byte. -/
  extension : Option Nat := none
  deriving DecidableEq, Repr, Inhabited

namespace Prefixes

/-- The segment that an override byte names. -/
def segmentOf? : Nat → Option String
  | 0x26 => some "ES"
  | 0x2e => some "CS"
  | 0x36 => some "SS"
  | 0x3e => some "DS"
  | 0x64 => some "FS"
  | 0x65 => some "GS"
  | _ => none

/-- The segments whose base counts in 64-bit code. -/
def isBased (segment : String) : Bool :=
  segment == "FS" || segment == "GS"

/-- Names a segment. The last override counts, except that in 64-bit code a segment without a
base does not replace one that has a base. -/
def withSegment (mode : Mode) (prefixes : Prefixes) (segment : String) : Prefixes :=
  if mode = .bits64 && !isBased segment && prefixes.segment.any isBased then prefixes
  else { prefixes with segment := some segment }

/-- The prefixes with one more byte, if the byte is a prefix. -/
def extend? (mode : Mode) (prefixes : Prefixes) (byte : Nat) : Option Prefixes :=
  let before := { prefixes with extension := none }
  match segmentOf? byte with
  | some segment => some (before.withSegment mode segment)
  | none =>
      if byte = 0x66 then some { before with operandOverride := true }
      else if byte = 0x67 then some { before with addressOverride := true }
      else if byte = 0xf0 then some { before with lock := true }
      else if byte = 0xf2 then some { before with repeated := false }
      else if byte = 0xf3 then some { before with repeated := true }
      else if mode = .bits64 && byte / 16 = 4 then
        some { prefixes with extension := some (byte % 16) }
      else none

/-- Reads all prefixes at the front of the bytes of an instruction. -/
def read (mode : Mode) (prefixes : Prefixes) : List UInt8 → Prefixes × List UInt8
  | [] => (prefixes, [])
  | byte :: rest =>
      match prefixes.extend? mode byte.toNat with
      | some longer => read mode longer rest
      | none => (prefixes, byte :: rest)

/-- A bit of the extension byte. -/
def extensionBit (prefixes : Prefixes) (bit : Nat) : Bool :=
  prefixes.extension.any fun bits => bits.testBit bit

/-- Widens a register number by a bit of the extension byte. -/
def widen (prefixes : Prefixes) (bit number : Nat) : Nat :=
  if prefixes.extensionBit bit then number + 8 else number

/-- Whether the extension byte asks for 64-bit operands. -/
def isWide (prefixes : Prefixes) : Bool :=
  prefixes.extensionBit 3

/-- The width of operands. -/
def operandWidth (mode : Mode) (prefixes : Prefixes) : Width :=
  match mode with
  | .bits16 => if prefixes.operandOverride then .dword else .word
  | .bits32 => if prefixes.operandOverride then .word else .dword
  | .bits64 =>
      if prefixes.isWide then .qword
      else if prefixes.operandOverride then .word
      else .dword

/-- The width of values on the stack. -/
def stackWidth (mode : Mode) (prefixes : Prefixes) : Width :=
  match mode with
  | .bits64 => if prefixes.operandOverride && !prefixes.isWide then .word else .qword
  | _ => prefixes.operandWidth mode

/-- The width of code addresses. -/
def branchWidth (mode : Mode) (prefixes : Prefixes) : Width :=
  match mode with
  | .bits64 => .qword
  | _ => prefixes.operandWidth mode

/-- The width of data addresses. -/
def addressWidth (mode : Mode) (prefixes : Prefixes) : Width :=
  match mode with
  | .bits16 => if prefixes.addressOverride then .dword else .word
  | .bits32 => if prefixes.addressOverride then .word else .dword
  | .bits64 => if prefixes.addressOverride then .dword else .qword

end Prefixes

end VmRecovery.X86

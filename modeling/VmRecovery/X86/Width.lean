/-!
# Widths and registers of x86

The widths that operands come in, and the name of a register by its number and width.
-/

namespace VmRecovery.X86

/-- The default width of operands and addresses of a code segment. -/
inductive Mode where
  | bits16
  | bits32
  | bits64
  deriving DecidableEq, Repr, Inhabited

/-- The width of a value. -/
inductive Width where
  | byte
  | word
  | dword
  | qword
  deriving DecidableEq, Repr, Inhabited

namespace Width

/-- The number of bytes of a width. -/
def bytes : Width → Nat
  | byte => 1
  | word => 2
  | dword => 4
  | qword => 8

/-- The number of bytes of a width as the access size of an operand. -/
def size (width : Width) : UInt8 :=
  width.bytes.toUInt8

/-- Drops the bits of an unsigned value that a width has no room for. -/
def truncate (width : Width) (value : UInt64) : UInt64 :=
  match width with
  | byte => value.toUInt8.toUInt64
  | word => value.toUInt16.toUInt64
  | dword => value.toUInt32.toUInt64
  | qword => value

/-- Extends the sign of a value of a width to 64 bits. -/
def signExtend (width : Width) (value : UInt64) : UInt64 :=
  match width with
  | byte => value.toUInt8.toInt8.toInt64.toUInt64
  | word => value.toUInt16.toInt16.toInt64.toUInt64
  | dword => value.toUInt32.toInt32.toInt64.toUInt64
  | qword => value

end Width

namespace Register

/-- The registers by their numbers, in 64-bit width. -/
def qwordNames : List String :=
  ["RAX", "RCX", "RDX", "RBX", "RSP", "RBP", "RSI", "RDI",
    "R8", "R9", "R10", "R11", "R12", "R13", "R14", "R15"]

/-- The registers by their numbers, in 32-bit width. -/
def dwordNames : List String :=
  ["EAX", "ECX", "EDX", "EBX", "ESP", "EBP", "ESI", "EDI",
    "R8D", "R9D", "R10D", "R11D", "R12D", "R13D", "R14D", "R15D"]

/-- The registers by their numbers, in 16-bit width. -/
def wordNames : List String :=
  ["AX", "CX", "DX", "BX", "SP", "BP", "SI", "DI",
    "R8W", "R9W", "R10W", "R11W", "R12W", "R13W", "R14W", "R15W"]

/-- The byte registers by their numbers in an instruction without an extension byte. -/
def byteNames : List String :=
  ["AL", "CL", "DL", "BL", "AH", "CH", "DH", "BH"]

/-- The byte registers by their numbers in an instruction with an extension byte. -/
def lowByteNames : List String :=
  ["AL", "CL", "DL", "BL", "SPL", "BPL", "SIL", "DIL",
    "R8L", "R9L", "R10L", "R11L", "R12L", "R13L", "R14L", "R15L"]

/-- The name of a register. An extension byte gives access to the low bytes of all registers in
place of the second bytes of the first four. -/
def name (width : Width) (extended : Bool) (number : Nat) : String :=
  let names :=
    match width with
    | .qword => qwordNames
    | .dword => dwordNames
    | .word => wordNames
    | .byte => if extended then lowByteNames else byteNames
  names.getD number ""

end Register

end VmRecovery.X86

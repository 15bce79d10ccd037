import VmRecovery.X86.Floating

/-!
# Opcodes of one byte

The instructions of the first opcode map. Opcodes that only exist outside of 64-bit code are
listed apart from the others.
-/

namespace VmRecovery.X86.Primary

open Form Width Row

/-- The arithmetic and logic instructions in the order of their opcodes. -/
def arithmeticNames : List String :=
  ["Add", "Or", "Adc", "Sbb", "And", "Sub", "Xor", "Cmp"]

/-- The shifts and rotations in the order of their fields. -/
def shiftNames : List String :=
  ["Rol", "Ror", "Rcl", "Rcr", "Shl", "Shr", "Sal", "Sar"]

/-- The segment registers in the order of their numbers. -/
def segmentNames : List String :=
  ["ES", "CS", "SS", "DS", "FS", "GS"]

/-- Arithmetic on the given operands. A comparison writes nothing, so it cannot be locked. -/
def arithmetic (number : Nat) (forms : List Form) : Encoding :=
  { mnemonic := arithmeticNames.getD number "", forms, lockable := number != 7 }

/-- Arithmetic in its six encodings with a register or the accumulator. -/
def arithmeticRow (width : Width) (opcode : Nat) : Option Row :=
  let number := opcode / 8
  match opcode % 8 with
  | 0 => some (always (arithmetic number [.place byte, .register byte]))
  | 1 => some (always (arithmetic number [.place width, .register width]))
  | 2 => some (always (arithmetic number [.register byte, .place byte]))
  | 3 => some (always (arithmetic number [.register width, .place width]))
  | 4 => some (.plain (arithmetic number [.implied byte 0, .immediate byte]))
  | 5 => some (.plain (arithmetic number [.implied width 0, fullImmediate width]))
  | _ => none

/-- Arithmetic with an immediate. -/
def arithmeticGroup (forms : List Form) : Row :=
  byField fun field => some (arithmetic field forms)

/-- Shifts by a count. -/
def shiftGroup (forms : List Form) : Row :=
  byField fun field => some { mnemonic := shiftNames.getD field "", forms }

/-- The instructions with a single operand, test with an immediate among them. -/
def unaryGroup (width : Width) : Row :=
  byField fun field =>
    match field with
    | 0 => some { mnemonic := "Test", forms := [.place width, fullImmediate width] }
    | 1 => some { mnemonic := "Test", forms := [.place width, fullImmediate width] }
    | 2 => some { mnemonic := "Not", forms := [.place width], lockable := true }
    | 3 => some { mnemonic := "Neg", forms := [.place width], lockable := true }
    | 4 => some { mnemonic := "Mul", forms := [.place width] }
    | 5 => some { mnemonic := "Imul", forms := [.place width] }
    | 6 => some { mnemonic := "Div", forms := [.place width] }
    | 7 => some { mnemonic := "Idiv", forms := [.place width] }
    | _ => none

/-- Increment and decrement of a place. -/
def countGroup (width : Width) (field : Nat) : Option Encoding :=
  match field with
  | 0 => some { mnemonic := "Inc", forms := [.place width], lockable := true }
  | 1 => some { mnemonic := "Dec", forms := [.place width], lockable := true }
  | _ => none

/-- Increment, decrement, indirect calls and jumps, and push. -/
def branchGroup (context : Context) : Row :=
  byField fun field =>
    let width := context.operandWidth
    match field with
    | 2 => some { mnemonic := "Call", forms := [.place context.branchWidth] }
    | 3 => some { mnemonic := "Call", forms := [.memory (farSize width)] }
    | 4 => some { mnemonic := "Jmp", forms := [.place context.branchWidth] }
    | 5 => some { mnemonic := "Jmp", forms := [.memory (farSize width)] }
    | 6 => some { mnemonic := "Push", forms := [.place context.stackWidth] }
    | _ => countGroup width field

/-- An exchange with the accumulator. With the accumulator itself nothing happens, which has a
name of its own. -/
def exchange (context : Context) (number : Nat) : Encoding :=
  let width := context.operandWidth
  if number = 0 && !context.prefixes.extensionBit 0 then
    { mnemonic := if context.prefixes.repeated then "Pause" else "Nop" }
  else { mnemonic := "Xchg", forms := [.opcodeRegister width number, .implied width 0] }

/-- A move of an immediate into a place. One other byte behind the opcode aborts or begins a
transaction. -/
def moveGroup (width : Width) (transaction : Encoding) : Row :=
  .byByte fun byte =>
    if fieldOf byte = 0 then
      some { mnemonic := "Mov", forms := [.place width, fullImmediate width] }
    else if byte = 0xf8 then some transaction
    else none

/-- The beginning of a transaction, with the address to continue at after an abort. -/
def beginTransaction (context : Context) : Encoding :=
  let target := if context.mode = .bits64 then qword else dword
  let distance := if context.operandWidth = .word then word else dword
  { mnemonic := "Xbegin", forms := [.near distance target] }

/-- A segment register as an operand. -/
def segmentRegister (number : Nat) : Option Form :=
  segmentNames[number]?.map fun name => .special name word.size

/-- A move of a segment register into a place. -/
def readSegment (width : Width) : Row :=
  byField fun field => do
    return { mnemonic := "Mov", forms := [.selector width, ← segmentRegister field] }

/-- A move of a place into a segment register. The code segment cannot be loaded. -/
def writeSegment (width : Width) : Row :=
  byField fun field =>
    if field = 1 then none
    else do
      return { mnemonic := "Mov", forms := [← segmentRegister field, .selector width] }

/-- A short jump that depends on a condition or a counter. -/
def shortJump (context : Context) (mnemonic : String) : Row :=
  .plain { mnemonic, forms := [.near byte context.branchWidth] }

/-- A jump if the counter is zero; the counter is as wide as an address. -/
def counterJump (context : Context) : Row :=
  shortJump context (named "Jcxz" "Jecxz" "Jrcxz" context.addressWidth)

/-- A transfer from or to a port. -/
def port (mnemonic : String) (forms : List Form) : Row :=
  .plain { mnemonic, forms }

/-- The port whose number is in a register. -/
def portRegister : Form :=
  .implied word 2

/-- The instructions that have no operands, or none that are reported, in every mode. -/
def bareRow (width : Width) (opcode : Nat) : Option Row :=
  match opcode with
  | 0x98 => some (bare (named "Cbw" "Cwde" "Cdqe" width))
  | 0x99 => some (bare (named "Cwd" "Cdq" "Cqo" width))
  | 0x9b => some (bare "Wait")
  | 0x9e => some (bare "Sahf")
  | 0x9f => some (bare "Lahf")
  | 0xa4 => some (bare "Movsb")
  | 0xa5 => some (bare (named "Movsw" "Movsd" "Movsq" width))
  | 0xa6 => some (bare "Cmpsb")
  | 0xa7 => some (bare (named "Cmpsw" "Cmpsd" "Cmpsq" width))
  | 0xc3 => some (bare "Ret")
  | 0xc9 => some (bare "Leave")
  | 0xcb => some (bare "Retf")
  | 0xcc => some (bare "Int3")
  | 0xcf => some (bare (named "Iret" "Iretd" "Iretq" width))
  | 0xf1 => some (bare "Int1")
  | 0xf4 => some (bare "Hlt")
  | 0xf5 => some (bare "Cmc")
  | 0xf8 => some (bare "Clc")
  | 0xf9 => some (bare "Stc")
  | 0xfa => some (bare "Cli")
  | 0xfb => some (bare "Sti")
  | 0xfc => some (bare "Cld")
  | 0xfd => some (bare "Std")
  | _ => none

/-- The instructions on strings that have one operand in a register. -/
def stringRow (width : Width) (opcode : Nat) : Option Row :=
  match opcode with
  | 0x6c => some (port "Insb" [portRegister])
  | 0x6d => some (port (named "Insw" "Insd" "Insd" width) [portRegister])
  | 0x6e => some (port "Outsb" [portRegister])
  | 0x6f => some (port (named "Outsw" "Outsd" "Outsd" width) [portRegister])
  | 0xaa => some (.plain { mnemonic := "Stosb", forms := [.implied byte 0] })
  | 0xab =>
      some (.plain
        { mnemonic := named "Stosw" "Stosd" "Stosq" width, forms := [.implied width 0] })
  | 0xac => some (.plain { mnemonic := "Lodsb", forms := [.implied byte 0] })
  | 0xad =>
      some (.plain
        { mnemonic := named "Lodsw" "Lodsd" "Lodsq" width, forms := [.implied width 0] })
  | 0xae => some (.plain { mnemonic := "Scasb", forms := [.implied byte 0] })
  | 0xaf =>
      some (.plain
        { mnemonic := named "Scasw" "Scasd" "Scasq" width, forms := [.implied width 0] })
  | _ => none

/-- The transfers between the accumulator and a port. -/
def portRow (width : Width) (opcode : Nat) : Option Row :=
  match opcode with
  | 0xe4 => some (port "In" [.implied byte 0, .immediate byte])
  | 0xe5 => some (port "In" [.implied width.narrow 0, .immediate byte])
  | 0xe6 => some (port "Out" [.immediate byte, .implied byte 0])
  | 0xe7 => some (port "Out" [.immediate byte, .implied width.narrow 0])
  | 0xec => some (port "In" [.implied byte 0, portRegister])
  | 0xed => some (port "In" [.implied width.narrow 0, portRegister])
  | 0xee => some (port "Out" [portRegister, .implied byte 0])
  | 0xef => some (port "Out" [portRegister, .implied width.narrow 0])
  | _ => none

/-- Push and pop of the four oldest segment registers. -/
def segmentRow (opcode : Nat) : Option Row := do
  let segment ← segmentRegister (opcode / 8)
  match opcode % 8 with
  | 6 => some (.plain { mnemonic := "Push", forms := [segment] })
  | 7 => some (.plain { mnemonic := "Pop", forms := [segment] })
  | _ => none

/-- The instructions that do not exist in 64-bit code. -/
def legacyRow (width : Width) (opcode : Nat) : Option Row :=
  if opcode < 0x20 then segmentRow opcode
  else
    match opcode with
    | 0x27 => some (bare "Daa")
    | 0x2f => some (bare "Das")
    | 0x37 => some (bare "Aaa")
    | 0x3f => some (bare "Aas")
    | 0x60 => some (bare (named "Pusha" "Pushad" "" width))
    | 0x61 => some (bare (named "Popa" "Popad" "" width))
    | 0x62 =>
        some (inMemory
          { mnemonic := "Bound", forms := [.register width, .memory (2 * width.size)] })
    | 0x63 =>
        some (always { mnemonic := "Arpl", forms := [.selector width, .register width] })
    | 0x82 => some (arithmeticGroup [.place byte, .immediate byte])
    | 0x9a => some (.plain { mnemonic := "Call", forms := [.far width] })
    | 0xc4 =>
        some (inMemory
          { mnemonic := "Les", forms := [.register width, .memory (farSize width)] })
    | 0xc5 =>
        some (inMemory
          { mnemonic := "Lds", forms := [.register width, .memory (farSize width)] })
    | 0xce => some (bare "Into")
    | 0xd4 => some (.plain { mnemonic := "Aam", forms := [.immediate byte] })
    | 0xd5 => some (.plain { mnemonic := "Aad", forms := [.immediate byte] })
    | 0xd6 => some (bare "Salc")
    | 0xea => some (.plain { mnemonic := "Jmp", forms := [.far width] })
    | _ => none

/-- The instructions whose opcode names a register, a condition or an accumulator. -/
def regularRow (context : Context) (opcode : Nat) : Option Row :=
  let width := context.operandWidth
  let stack := context.stackWidth
  if opcode < 0x40 then arithmeticRow width opcode
  else if opcode < 0x48 then
    some (.plain { mnemonic := "Inc", forms := [.opcodeRegister width (opcode % 8)] })
  else if opcode < 0x50 then
    some (.plain { mnemonic := "Dec", forms := [.opcodeRegister width (opcode % 8)] })
  else if opcode < 0x58 then
    some (.plain { mnemonic := "Push", forms := [.opcodeRegister stack (opcode % 8)] })
  else if opcode < 0x60 then
    some (.plain { mnemonic := "Pop", forms := [.opcodeRegister stack (opcode % 8)] })
  else if opcode / 16 = 0x7 then some (shortJump context (conditional "J" opcode))
  else if opcode / 8 = 0x12 then some (.plain (exchange context (opcode % 8)))
  else if opcode / 8 = 0x16 then
    some (.plain
      { mnemonic := "Mov", forms := [.opcodeRegister byte (opcode % 8), .immediate byte] })
  else if opcode / 8 = 0x17 then
    some (.plain
      { mnemonic := "Mov", forms := [.opcodeRegister width (opcode % 8), .immediate width] })
  else if opcode / 8 = 0x1b then some (Floating.row width opcode)
  else none

/-- The other instructions, which exist in every mode. -/
def singleRow (context : Context) (opcode : Nat) : Option Row :=
  let width := context.operandWidth
  let stack := context.stackWidth
  match opcode with
  | 0x63 =>
      some (always { mnemonic := "Movsxd", forms := [.register width, .place width.narrow] })
  | 0x68 => some (.plain { mnemonic := "Push", forms := [fullImmediate stack] })
  | 0x69 =>
      some (always
        { mnemonic := "Imul", forms := [.register width, .place width, fullImmediate width] })
  | 0x6a => some (.plain { mnemonic := "Push", forms := [.signed byte stack] })
  | 0x6b =>
      some (always
        { mnemonic := "Imul", forms := [.register width, .place width, .signed byte width] })
  | 0x80 => some (arithmeticGroup [.place byte, .immediate byte])
  | 0x81 => some (arithmeticGroup [.place width, fullImmediate width])
  | 0x83 => some (arithmeticGroup [.place width, .signed byte width])
  | 0x84 => some (always { mnemonic := "Test", forms := [.place byte, .register byte] })
  | 0x85 => some (always { mnemonic := "Test", forms := [.place width, .register width] })
  | 0x86 =>
      some (always
        { mnemonic := "Xchg", forms := [.place byte, .register byte], lockable := true })
  | 0x87 =>
      some (always
        { mnemonic := "Xchg", forms := [.place width, .register width], lockable := true })
  | 0x88 => some (always { mnemonic := "Mov", forms := [.place byte, .register byte] })
  | 0x89 => some (always { mnemonic := "Mov", forms := [.place width, .register width] })
  | 0x8a => some (always { mnemonic := "Mov", forms := [.register byte, .place byte] })
  | 0x8b => some (always { mnemonic := "Mov", forms := [.register width, .place width] })
  | 0x8c => some (readSegment width)
  | 0x8d => some (always { mnemonic := "Lea", forms := [.register width, .address] })
  | 0x8e => some (writeSegment width)
  | 0x8f => some (only 0 { mnemonic := "Pop", forms := [.place stack] })
  | 0x9c => some (bare (named "Pushf" "Pushfd" "Pushfq" stack))
  | 0x9d => some (bare (named "Popf" "Popfd" "Popfq" stack))
  | 0xa0 => some (.plain { mnemonic := "Mov", forms := [.implied byte 0, .absolute byte] })
  | 0xa1 => some (.plain { mnemonic := "Mov", forms := [.implied width 0, .absolute width] })
  | 0xa2 => some (.plain { mnemonic := "Mov", forms := [.absolute byte, .implied byte 0] })
  | 0xa3 => some (.plain { mnemonic := "Mov", forms := [.absolute width, .implied width 0] })
  | 0xa8 => some (.plain { mnemonic := "Test", forms := [.implied byte 0, .immediate byte] })
  | 0xa9 =>
      some (.plain { mnemonic := "Test", forms := [.implied width 0, fullImmediate width] })
  | 0xc0 => some (shiftGroup [.place byte, .immediate byte])
  | 0xc1 => some (shiftGroup [.place width, .immediate byte])
  | 0xc2 => some (.plain { mnemonic := "Ret", forms := [.immediate word] })
  | 0xc6 => some (moveGroup byte { mnemonic := "Xabort", forms := [.immediate byte] })
  | 0xc7 => some (moveGroup width (beginTransaction context))
  | 0xc8 => some (.plain { mnemonic := "Enter", forms := [.immediate word, .immediate byte] })
  | 0xca => some (.plain { mnemonic := "Retf", forms := [.immediate word] })
  | 0xcd => some (.plain { mnemonic := "Int", forms := [.immediate byte] })
  | 0xd0 => some (shiftGroup [.place byte, .one])
  | 0xd1 => some (shiftGroup [.place width, .one])
  | 0xd2 => some (shiftGroup [.place byte, .implied byte 1])
  | 0xd3 => some (shiftGroup [.place width, .implied byte 1])
  | 0xd7 => some (.plain { mnemonic := "Xlatb", forms := [.tableEntry] })
  | 0xe0 => some (shortJump context "Loopne")
  | 0xe1 => some (shortJump context "Loope")
  | 0xe2 => some (shortJump context "Loop")
  | 0xe3 => some (counterJump context)
  | 0xe8 => some (.plain { mnemonic := "Call", forms := [fullNear context.branchWidth] })
  | 0xe9 => some (.plain { mnemonic := "Jmp", forms := [fullNear context.branchWidth] })
  | 0xeb => some (shortJump context "Jmp")
  | 0xf6 => some (unaryGroup byte)
  | 0xf7 => some (unaryGroup width)
  | 0xfe => some (byField (countGroup byte))
  | 0xff => some (branchGroup context)
  | _ => none

/-- The instructions of an opcode. -/
def row (context : Context) (opcode : Nat) : Option Row :=
  let width := context.operandWidth
  (if context.mode = .bits64 then none else legacyRow width opcode) <|>
    regularRow context opcode <|> bareRow width opcode <|> stringRow width opcode <|>
    portRow width opcode <|> singleRow context opcode

end VmRecovery.X86.Primary

import VmRecovery.X86.Primary

/-!
# Opcodes of two bytes

The general instructions of the second opcode map, by the second byte of the opcode. Vector
instructions and those on control registers and descriptor tables are not decoded.
-/

namespace VmRecovery.X86.Secondary

open Form Width Row

/-- A double shift by a count. -/
def doubleShift (width : Width) (mnemonic : String) (count : Form) : Row :=
  always { mnemonic, forms := [.place width, .register width, count] }

/-- A register from a place. -/
def toRegister (width : Width) (mnemonic : String) (source : Width) : Row :=
  always { mnemonic, forms := [.register width, .place source] }

/-- The instructions on single bits in the order of their fields. -/
def bitNames : List String :=
  ["Bt", "Bts", "Btr", "Btc"]

/-- An instruction on a bit of a place. A mere test cannot be locked. -/
def bitEncoding (number : Nat) (forms : List Form) : Encoding :=
  { mnemonic := bitNames.getD number "", forms, lockable := number != 0 }

/-- The instructions on the bit of a place that an immediate numbers. -/
def bitGroup (width : Width) : Row :=
  byField fun field =>
    if field < 4 then none else some (bitEncoding (field - 4) [.place width, .immediate byte])

/-- The instructions that write a sum or compare with the accumulator, and may be locked. -/
def exchanging (width : Width) (mnemonic : String) : Row :=
  always { mnemonic, forms := [.place width, .register width], lockable := true }

/-- A far pointer into a register and a segment register. -/
def farPointer (width : Width) (mnemonic : String) : Row :=
  inMemory { mnemonic, forms := [.register width, .memory (farSize width)] }

/-- The comparison of a pair of accumulators with a place in memory. -/
def exchangePair (width : Width) : Row :=
  let size : UInt8 := if width = .qword then 16 else 8
  .byByte fun byte =>
    if namesMemory byte && fieldOf byte == 1 then
      some
        { mnemonic := named "Cmpxchg8b" "Cmpxchg8b" "Cmpxchg16b" width
          forms := [.memory size], lockable := true }
    else none

/-- A store that bypasses the caches. It has no narrow form. -/
def directStore (width : Width) : Option Row :=
  if width = .word then none
  else some (inMemory { mnemonic := "Movnti", forms := [.memory width.size, .register width] })

/-- An instruction that is undefined on purpose but has operands. -/
def undefinedRow (width : Width) (mnemonic : String) : Row :=
  toRegister width mnemonic width

/-- The instructions without operands. -/
def bareRow (context : Context) (opcode : Nat) : Option Row :=
  let width := context.operandWidth
  match opcode with
  | 0x05 => some (bare "Syscall")
  | 0x06 => some (bare "Clts")
  | 0x07 => some (bare (named "Sysret" "Sysret" "Sysretq" width))
  | 0x08 => some (bare "Invd")
  | 0x09 => some (bare (if context.prefixes.repeated then "Wbnoinvd" else "Wbinvd"))
  | 0x0b => some (bare "Ud2")
  | 0x30 => some (bare "Wrmsr")
  | 0x31 => some (bare "Rdtsc")
  | 0x32 => some (bare "Rdmsr")
  | 0x33 => some (bare "Rdpmc")
  | 0x34 => some (bare "Sysenter")
  | 0x35 => some (bare (named "Sysexit" "Sysexit" "Sysexitq" width))
  | 0xa2 => some (bare "Cpuid")
  | 0xaa => some (bare "Rsm")
  | _ => none

/-- The instructions of an opcode. -/
def row (context : Context) (opcode : Nat) : Option Row :=
  let width := context.operandWidth
  let repeated := context.prefixes.repeated
  if opcode / 16 = 0x4 then some (toRegister width (conditional "Cmov" opcode) width)
  else if opcode / 16 = 0x8 then
    some (.plain
      { mnemonic := conditional "J" opcode, forms := [fullNear context.branchWidth] })
  else if opcode / 16 = 0x9 then
    some (always { mnemonic := conditional "Set" opcode, forms := [.place byte] })
  else if opcode / 8 = 0x19 then
    some (.plain { mnemonic := "Bswap", forms := [.opcodeRegister width (opcode % 8)] })
  else
    match opcode with
    | 0x1f => some (only 0 { mnemonic := "Nop", forms := [.place width] })
    | 0xa0 => some (.plain { mnemonic := "Push", forms := [.special "FS" word.size] })
    | 0xa1 => some (.plain { mnemonic := "Pop", forms := [.special "FS" word.size] })
    | 0xa3 => some (always (bitEncoding 0 [.place width, .register width]))
    | 0xa4 => some (doubleShift width "Shld" (.immediate byte))
    | 0xa5 => some (doubleShift width "Shld" (.implied byte 1))
    | 0xa8 => some (.plain { mnemonic := "Push", forms := [.special "GS" word.size] })
    | 0xa9 => some (.plain { mnemonic := "Pop", forms := [.special "GS" word.size] })
    | 0xab => some (always (bitEncoding 1 [.place width, .register width]))
    | 0xac => some (doubleShift width "Shrd" (.immediate byte))
    | 0xad => some (doubleShift width "Shrd" (.implied byte 1))
    | 0xaf => some (toRegister width "Imul" width)
    | 0xb0 => some (exchanging byte "Cmpxchg")
    | 0xb1 => some (exchanging width "Cmpxchg")
    | 0xb2 => some (farPointer width "Lss")
    | 0xb3 => some (always (bitEncoding 2 [.place width, .register width]))
    | 0xb4 => some (farPointer width "Lfs")
    | 0xb5 => some (farPointer width "Lgs")
    | 0xb6 => some (toRegister width "Movzx" byte)
    | 0xb7 => some (toRegister width "Movzx" word)
    | 0xb8 => if repeated then some (toRegister width "Popcnt" width) else none
    | 0xb9 => some (undefinedRow width "Ud1")
    | 0xba => some (bitGroup width)
    | 0xbb => some (always (bitEncoding 3 [.place width, .register width]))
    | 0xbc => some (toRegister width (if repeated then "Tzcnt" else "Bsf") width)
    | 0xbd => some (toRegister width (if repeated then "Lzcnt" else "Bsr") width)
    | 0xbe => some (toRegister width "Movsx" byte)
    | 0xbf => some (toRegister width "Movsx" word)
    | 0xc0 => some (exchanging byte "Xadd")
    | 0xc1 => some (exchanging width "Xadd")
    | 0xc3 => directStore width
    | 0xc7 => some (exchangePair width)
    | 0xff => some (undefinedRow width "Ud0")
    | _ => bareRow context opcode

end VmRecovery.X86.Secondary

import VmRecovery.X86.Row

/-!
# Floating point instructions

Eight opcodes hold the instructions of the floating point unit. The byte behind the opcode names
a place in memory, whose size depends on the instruction, or else selects an instruction on the
stack of the unit.
-/

namespace VmRecovery.X86.Floating

/-- The arithmetic on floating point numbers in the order of the fields. -/
def arithmeticNames : List String :=
  ["Fadd", "Fmul", "Fcom", "Fcomp", "Fsub", "Fsubr", "Fdiv", "Fdivr"]

/-- The arithmetic with integers in memory in the order of the fields. -/
def integerNames : List String :=
  ["Fiadd", "Fimul", "Ficom", "Ficomp", "Fisub", "Fisubr", "Fidiv", "Fidivr"]

/-- The arithmetic that writes to another register than the top of the stack. Differences and
quotients are the other way round. -/
def reversedNames : List String :=
  ["Fadd", "Fmul", "Fcom", "Fcomp", "Fsubr", "Fsub", "Fdivr", "Fdiv"]

/-- The arithmetic that drops the top of the stack afterwards. -/
def poppingNames : List String :=
  ["Faddp", "Fmulp", "Fcomp", "Fcompp", "Fsubrp", "Fsubp", "Fdivrp", "Fdivp"]

/-- The instruction of a number, if there is one. -/
def numbered (names : List String) (number : Nat) : Option Encoding :=
  names[number]?.map fun mnemonic => { mnemonic }

/-- A register of the stack, counted from its top. -/
def stackRegister (number : Nat) : Form :=
  .special ("ST" ++ toString number) 10

/-- The top of the stack. -/
def top : Form :=
  stackRegister 0

/-- An instruction with one register of the stack. -/
def onRegister (mnemonic : String) (number : Nat) : Option Encoding :=
  some { mnemonic, forms := [stackRegister number] }

/-- An instruction that writes to the top of the stack, with another register. -/
def toTop (mnemonic : String) (number : Nat) : Option Encoding :=
  some { mnemonic, forms := [top, stackRegister number] }

/-- An instruction that writes to a register of the stack, with its top. -/
def fromTop (mnemonic : String) (number : Nat) : Option Encoding :=
  some { mnemonic, forms := [stackRegister number, top] }

/-- An instruction with an operand in memory. -/
def onMemory (mnemonic : String) (size : UInt8) : Option Encoding :=
  some { mnemonic, forms := [.memory size] }

/-- The size of the environment of the unit in memory. -/
def environmentSize (width : Width) : UInt8 :=
  if width = .word then 14 else 28

/-- The size of the whole state of the unit in memory: the environment and eight registers. -/
def stateSize (width : Width) : UInt8 :=
  environmentSize width + 80

/-- The instructions with an operand in memory, by opcode and field. -/
def memoryEncoding (width : Width) (opcode field : Nat) : Option Encoding :=
  match opcode, field with
  | 0xd8, field => onMemory (arithmeticNames.getD field "") 4
  | 0xda, field => onMemory (integerNames.getD field "") 4
  | 0xdc, field => onMemory (arithmeticNames.getD field "") 8
  | 0xde, field => onMemory (integerNames.getD field "") 2
  | 0xd9, 0 => onMemory "Fld" 4
  | 0xd9, 2 => onMemory "Fst" 4
  | 0xd9, 3 => onMemory "Fstp" 4
  | 0xd9, 4 => onMemory "Fldenv" (environmentSize width)
  | 0xd9, 5 => onMemory "Fldcw" 2
  | 0xd9, 6 => onMemory "Fnstenv" (environmentSize width)
  | 0xd9, 7 => onMemory "Fnstcw" 2
  | 0xdb, 0 => onMemory "Fild" 4
  | 0xdb, 1 => onMemory "Fisttp" 4
  | 0xdb, 2 => onMemory "Fist" 4
  | 0xdb, 3 => onMemory "Fistp" 4
  | 0xdb, 5 => onMemory "Fld" 10
  | 0xdb, 7 => onMemory "Fstp" 10
  | 0xdd, 0 => onMemory "Fld" 8
  | 0xdd, 1 => onMemory "Fisttp" 8
  | 0xdd, 2 => onMemory "Fst" 8
  | 0xdd, 3 => onMemory "Fstp" 8
  | 0xdd, 4 => onMemory "Frstor" (stateSize width)
  | 0xdd, 6 => onMemory "Fnsave" (stateSize width)
  | 0xdd, 7 => onMemory "Fnstsw" 2
  | 0xdf, 0 => onMemory "Fild" 2
  | 0xdf, 1 => onMemory "Fisttp" 2
  | 0xdf, 2 => onMemory "Fist" 2
  | 0xdf, 3 => onMemory "Fistp" 2
  | 0xdf, 4 => onMemory "Fbld" 10
  | 0xdf, 5 => onMemory "Fild" 8
  | 0xdf, 6 => onMemory "Fbstp" 10
  | 0xdf, 7 => onMemory "Fistp" 8
  | _, _ => none

/-- The instructions on the stack that have no operands, by opcode, field and number. -/
def bareEncoding (opcode field number : Nat) : Option Encoding :=
  match opcode, field with
  | 0xd9, 2 => numbered ["Fnop"] number
  | 0xd9, 4 =>
      match number with
      | 0 => some { mnemonic := "Fchs" }
      | 1 => some { mnemonic := "Fabs" }
      | 4 => some { mnemonic := "Ftst" }
      | 5 => some { mnemonic := "Fxam" }
      | _ => none
  | 0xd9, 5 => numbered ["Fld1", "Fldl2t", "Fldl2e", "Fldpi", "Fldlg2", "Fldln2", "Fldz"] number
  | 0xd9, 6 =>
      numbered
        ["F2xm1", "Fyl2x", "Fptan", "Fpatan", "Fxtract", "Fprem1", "Fdecstp", "Fincstp"] number
  | 0xd9, 7 =>
      numbered
        ["Fprem", "Fyl2xp1", "Fsqrt", "Fsincos", "Frndint", "Fscale", "Fsin", "Fcos"] number
  | 0xda, 5 => if number = 1 then some { mnemonic := "Fucompp" } else none
  | 0xdb, 4 => numbered ["Fneni", "Fndisi", "Fnclex", "Fninit", "Fnsetpm"] number
  | 0xde, 3 => if number = 1 then some { mnemonic := "Fcompp" } else none
  | _, _ => none

/-- The instructions on the stack, by opcode, field and register. -/
def stackEncoding (opcode field number : Nat) : Option Encoding :=
  match opcode, field with
  | 0xd8, field => toTop (arithmeticNames.getD field "") number
  | 0xd9, 0 => onRegister "Fld" number
  | 0xd9, 1 => toTop "Fxch" number
  | 0xd9, 3 => onRegister "Fstpnce" number
  | 0xda, 0 => toTop "Fcmovb" number
  | 0xda, 1 => toTop "Fcmove" number
  | 0xda, 2 => toTop "Fcmovbe" number
  | 0xda, 3 => toTop "Fcmovu" number
  | 0xdb, 0 => toTop "Fcmovnb" number
  | 0xdb, 1 => toTop "Fcmovne" number
  | 0xdb, 2 => toTop "Fcmovnbe" number
  | 0xdb, 3 => toTop "Fcmovnu" number
  | 0xdb, 5 => toTop "Fucomi" number
  | 0xdb, 6 => toTop "Fcomi" number
  | 0xdc, 2 => toTop "Fcom" number
  | 0xdc, 3 => toTop "Fcomp" number
  | 0xdc, field => fromTop (reversedNames.getD field "") number
  | 0xdd, 0 => onRegister "Ffree" number
  | 0xdd, 1 => toTop "Fxch" number
  | 0xdd, 2 => onRegister "Fst" number
  | 0xdd, 3 => onRegister "Fstp" number
  | 0xdd, 4 => toTop "Fucom" number
  | 0xdd, 5 => toTop "Fucomp" number
  | 0xde, 2 => toTop "Fcomp" number
  | 0xde, 3 => bareEncoding opcode field number
  | 0xde, field => fromTop (poppingNames.getD field "") number
  | 0xdf, 0 => onRegister "Ffreep" number
  | 0xdf, 1 => toTop "Fxch" number
  | 0xdf, 2 => onRegister "Fstp" number
  | 0xdf, 3 => onRegister "Fstp" number
  | 0xdf, 4 =>
      if number = 0 then some { mnemonic := "Fnstsw", forms := [.implied .word 0] } else none
  | 0xdf, 5 => toTop "Fucomip" number
  | 0xdf, 6 => toTop "Fcomip" number
  | opcode, field => bareEncoding opcode field number

/-- The instructions of one of the eight opcodes. -/
def row (width : Width) (opcode : Nat) : Row :=
  .byByte fun byte =>
    if namesMemory byte then memoryEncoding width opcode (fieldOf byte)
    else stackEncoding opcode (fieldOf byte) (byte % 8)

end VmRecovery.X86.Floating

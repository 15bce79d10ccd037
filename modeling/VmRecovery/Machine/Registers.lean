/-!
# The register file

The 32-bit general purpose registers, the instruction pointer and the flags. A register name
denotes a `View`: a full register together with the range of its bits that the name stands
for. Reading and writing are defined once for all views. A write looks its register up in a table
of its own; `AL`, `AH`, `AX` and `EAX` share their storage because both tables agree
(`Register.ofName?_eq`).
-/

namespace VmRecovery.Machine

/-- The full registers. -/
inductive Register where
  | eax | ecx | edx | ebx | esp | ebp | esi | edi | eip | eflags
  deriving DecidableEq, Repr, Inhabited

/-- The contents of all registers. -/
structure Registers where
  eax : UInt32 := 0
  ecx : UInt32 := 0
  edx : UInt32 := 0
  ebx : UInt32 := 0
  esp : UInt32 := 0
  ebp : UInt32 := 0
  esi : UInt32 := 0
  edi : UInt32 := 0
  eip : UInt32 := 0
  eflags : UInt32 := 0
  deriving DecidableEq, Repr, Inhabited

/-- A range of the bits of a full register. -/
structure View where
  register : Register
  /-- The lowest bit. -/
  offset : UInt32
  /-- The lowest bits, as many as the range has. -/
  mask : UInt32
  deriving DecidableEq, Repr, Inhabited

namespace View

/-- All 32 bits of a register. -/
def full (register : Register) : View :=
  { register, offset := 0, mask := 0xffffffff }

/-- The low half of a register. -/
def low16 (register : Register) : View :=
  { register, offset := 0, mask := 0xffff }

/-- The lowest byte of a register. -/
def low8 (register : Register) : View :=
  { register, offset := 0, mask := 0xff }

/-- The second lowest byte of a register. -/
def high8 (register : Register) : View :=
  { register, offset := 8, mask := 0xff }

/-- The view that an upper-case name stands for. -/
def ofUpperName? : String → Option View
  | "EAX" => some (full .eax)
  | "AX" => some (low16 .eax)
  | "AL" => some (low8 .eax)
  | "AH" => some (high8 .eax)
  | "ECX" => some (full .ecx)
  | "CX" => some (low16 .ecx)
  | "CL" => some (low8 .ecx)
  | "CH" => some (high8 .ecx)
  | "EDX" => some (full .edx)
  | "DX" => some (low16 .edx)
  | "DL" => some (low8 .edx)
  | "DH" => some (high8 .edx)
  | "EBX" => some (full .ebx)
  | "BX" => some (low16 .ebx)
  | "BL" => some (low8 .ebx)
  | "BH" => some (high8 .ebx)
  | "ESP" => some (full .esp)
  | "SP" => some (low16 .esp)
  | "EBP" => some (full .ebp)
  | "BP" => some (low16 .ebp)
  | "ESI" => some (full .esi)
  | "SI" => some (low16 .esi)
  | "EDI" => some (full .edi)
  | "DI" => some (low16 .edi)
  | "EIP" => some (full .eip)
  | "EFLAGS" => some (full .eflags)
  | _ => none

/-- The view that a name stands for; the case of ASCII letters does not matter. -/
def ofName? (name : String) : Option View :=
  ofUpperName? (name.map Char.toUpper)

/-- The viewed bits of a full register's content. -/
def extract (view : View) (content : UInt32) : UInt32 :=
  (content >>> view.offset) &&& view.mask

/-- The content of a full register after the viewed bits were replaced. -/
def replace (view : View) (content value : UInt32) : UInt32 :=
  (content &&& ~~~(view.mask <<< view.offset)) ||| ((value &&& view.mask) <<< view.offset)

end View

namespace Register

/-- The full register that an upper-case name is stored in. -/
def ofUpperName? : String → Option Register
  | "EAX" | "AX" | "AL" | "AH" => some .eax
  | "ECX" | "CX" | "CL" | "CH" => some .ecx
  | "EDX" | "DX" | "DL" | "DH" => some .edx
  | "EBX" | "BX" | "BL" | "BH" => some .ebx
  | "ESP" | "SP" => some .esp
  | "EBP" | "BP" => some .ebp
  | "ESI" | "SI" => some .esi
  | "EDI" | "DI" => some .edi
  | "EIP" => some .eip
  | "EFLAGS" => some .eflags
  | _ => none

/-- The full register that a name is stored in; the case of ASCII letters does not matter. -/
def ofName? (name : String) : Option Register :=
  ofUpperName? (name.map Char.toUpper)

/-- Both tables list the same names, with the same register for each. -/
theorem ofUpperName?_eq (upper : String) :
    ofUpperName? upper = (View.ofUpperName? upper).map View.register := by
  unfold View.ofUpperName?
  split
  case h_27 =>
    unfold ofUpperName?
    split <;> simp_all
  all_goals rfl

/-- A name is stored in the register that it shows bits of. -/
theorem ofName?_eq (name : String) : ofName? name = (View.ofName? name).map View.register :=
  ofUpperName?_eq _

end Register

namespace Registers

/-- The content of a full register. -/
def get (registers : Registers) : Register → UInt32
  | .eax => registers.eax
  | .ecx => registers.ecx
  | .edx => registers.edx
  | .ebx => registers.ebx
  | .esp => registers.esp
  | .ebp => registers.ebp
  | .esi => registers.esi
  | .edi => registers.edi
  | .eip => registers.eip
  | .eflags => registers.eflags

/-- Replaces the content of a full register. -/
def set (registers : Registers) (register : Register) (content : UInt32) : Registers :=
  match register with
  | .eax => { registers with eax := content }
  | .ecx => { registers with ecx := content }
  | .edx => { registers with edx := content }
  | .ebx => { registers with ebx := content }
  | .esp => { registers with esp := content }
  | .ebp => { registers with ebp := content }
  | .esi => { registers with esi := content }
  | .edi => { registers with edi := content }
  | .eip => { registers with eip := content }
  | .eflags => { registers with eflags := content }

/-- A register that was replaced has the new content, and the others keep theirs. -/
theorem get_set (registers : Registers) (register other : Register) (content : UInt32) :
    (registers.set register content).get other =
      if other = register then content else registers.get other := by
  cases register <;> cases other <;> rfl

/-- The value of a named register, or of a named part of one. -/
def read (registers : Registers) (name : String) : Option UInt64 :=
  (View.ofName? name).map fun view => (view.extract (registers.get view.register)).toUInt64

/-- Stores the low bits of a value in a named register, or in a named part of one. There is no
result for a name that stands for no register. -/
def write (registers : Registers) (name : String) (value : UInt64) : Option Registers := do
  let view ← View.ofName? name
  let register ← Register.ofName? name
  return registers.set register (view.replace (registers.get register) value.toUInt32)

/-- A write replaces what the view of the name shows. -/
theorem write_eq (registers : Registers) (name : String) (value : UInt64) :
    registers.write name value =
      (View.ofName? name).map fun view =>
        registers.set view.register
          (view.replace (registers.get view.register) value.toUInt32) := by
  rw [write, Register.ofName?_eq]
  cases View.ofName? name <;> rfl

end Registers

end VmRecovery.Machine

import VmRecovery.X86.Secondary

/-!
# Opcodes

The opcode maps taken together. One opcode of the first map leads to the second map; what else
leads to further maps is not decoded.
-/

namespace VmRecovery.X86.Opcode

/-- Reads an opcode. -/
def read (context : Context) : Read Row := do
  let opcode ← Read.byte
  if opcode = 0x0f then
    let second ← Read.byte
    StateT.lift (Secondary.row context second)
  else StateT.lift (Primary.row context opcode)

end VmRecovery.X86.Opcode

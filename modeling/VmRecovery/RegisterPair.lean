/-!
# The registers that a virtual machine runs on

Between two VM branches one native register holds the bytecode pointer and another one the
operand stack pointer.
-/

namespace VmRecovery

/-- The native registers used as bytecode pointer and as operand stack pointer. -/
structure RegisterPair where
  code : String
  stack : String
  deriving DecidableEq, Repr, Inhabited

/-- The form in which a pair is reported. -/
def RegisterPair.text (pair : RegisterPair) : String :=
  "code=" ++ pair.code ++ " stack=" ++ pair.stack

end VmRecovery

import VmRecovery.Native.Decoder
import VmRecovery.Trace.Occurrence

/-!
# The key push

Virtualized code is entered by pushing a key and calling the entry routine. The two
instructions form an occurrence of their own, which belongs to the entry routine behind it.
-/

namespace VmRecovery.Trace.Occurrence

open Native

/-- Whether an occurrence consists of a push of an immediate and a direct call. -/
def isKeyPush (occurrence : Occurrence) (decoder : Decoder) : Bool :=
  match occurrence.addresses with
  | [push, call] =>
      (decoder.decode push).any Instruction.isImmediatePush &&
        (decoder.decode call).any Instruction.isDirectCall
  | _ => false

/-- The instructions that are looked up to tell a key push, in order. -/
def keyPushLookups (occurrence : Occurrence) (decoder : Decoder) : List UInt64 :=
  match occurrence.addresses with
  | [push, call] =>
      if (decoder.decode push).any Instruction.isImmediatePush then [push, call] else [push]
  | _ => []

end VmRecovery.Trace.Occurrence

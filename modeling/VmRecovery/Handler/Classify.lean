import VmRecovery.Handler.Verdict
import VmRecovery.Session

/-!
# Reporting how a handler was recognised
-/

namespace VmRecovery

open Handler Ir Native

namespace Handler.Attempt

/-- What trying a matcher on a handler is reported as. -/
def notice (entry : UInt64) (attempt : Attempt) : Notice :=
  match attempt.outcome with
  | .ok _ => .classified entry attempt.matcher
  | .error .shape => .refused attempt.matcher
  | .error (.conflict derived) => .conflicted attempt.matcher derived

/-- The notices of one attempt: the look-ups in vain, then its outcome. -/
def notices (decoder : Decoder) (entry : UInt64) (attempt : Attempt) : List Notice :=
  (decoder.invalidAmong attempt.lookups).map .invalidInstruction ++ [attempt.notice entry]

end Handler.Attempt

namespace Handler.Site

/-- The notices of recognising a handler. -/
def notices (decoder : Decoder) (site : Site) : List Notice :=
  (site.attempts decoder matchers).flatMap (·.notices decoder site.fragment.entry)

end Handler.Site

/-- Recognises a handler and reports the matchers that were tried. -/
def SessionM.classify {σ : Type} (decoder : Decoder) (site : Site) : SessionM σ Verdict := do
  noteAll (site.notices decoder)
  return site.verdict decoder

end VmRecovery

import VmRecovery.Handler.Arithmetic
import VmRecovery.Handler.Control
import VmRecovery.Handler.Transfer

/-!
# What a handler turns out to be

The matchers are tried in a fixed order and the first one that accepts decides. Code without
memory traffic that no matcher accepts has no effect on the virtual machine.
-/

namespace VmRecovery.Handler

open Ir Native

/-- The outcome of looking at a handler. -/
inductive Verdict where
  | handler (pattern : Pattern)
  /-- A check of the room on the native stack. -/
  | stackGuard
  /-- No memory traffic at all. -/
  | junk
  | unknown
  deriving DecidableEq, Repr, Inhabited

/-- The matchers tried first, in order of precedence. -/
def mainMatchers : List Matcher :=
  transferMatchers ++ arithmeticMatchers ++ controlMatchers

/-- All matchers in order of precedence. -/
def matchers : List Matcher :=
  mainMatchers ++ fallbackMatchers

/-- One matcher tried on a handler. -/
structure Attempt where
  matcher : String
  /-- The instructions looked up, in order. -/
  lookups : List UInt64
  outcome : Except Refusal Pattern

/-- Tries one matcher. -/
def Matcher.attempt (matcher : Matcher) (decoder : Decoder) (site : Site) : Attempt :=
  { matcher := matcher.name
    lookups := matcher.lookups decoder site
    outcome := matcher.apply decoder site }

/-- Whether the matcher accepted. -/
def Attempt.accepted (attempt : Attempt) : Bool :=
  attempt.outcome.isOk

namespace Site

/-- The matchers that are tried: all up to the first one that accepts. -/
def attempts (decoder : Decoder) (site : Site) : List Matcher → List Attempt
  | [] => []
  | matcher :: rest =>
      let attempt := matcher.attempt decoder site
      if attempt.accepted then [attempt] else attempt :: site.attempts decoder rest

/-- The pattern of the first matcher that accepts. -/
def pattern? (decoder : Decoder) (site : Site) : Option Pattern :=
  matchers.findSome? fun matcher => (matcher.apply decoder site).toOption

/-- What a handler turns out to be. -/
def verdict (decoder : Decoder) (site : Site) : Verdict :=
  match site.pattern? decoder with
  | some pattern => .handler pattern
  | none =>
      if site.isStackGuard then .stackGuard
      else if site.isJunk then .junk
      else .unknown

end Site

end VmRecovery.Handler

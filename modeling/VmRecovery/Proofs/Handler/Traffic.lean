import Mathlib
import VmRecovery.Proofs.Handler.Exclusion
import VmRecovery.Proofs.Handler.Search

/-!
# Memory traffic of recognised handlers

What a handler turns out to be tells how often it writes and reads memory (`Pattern.Traffic`). Each
matcher of the main battery checks the numbers itself, so its patterns come with their traffic
(`shows_of_mem`). The flags alone need the order of the battery: `popfd` asks for one read, and that
there are two follows because a single read through the stack register has been taken for a jump
before (`jmp?_of_single`).

`verdict_traffic` states the table for all verdicts. Code without any traffic is a stack guard or
junk, and nothing else is.
-/

namespace VmRecovery

open Ir Native

namespace Selection

variable {selection : Selection}

/-- A pair can be asked for only if one is selected. -/
theorem isSelected_of_pair? {pair : RegisterPair} (isPair : selection.pair? = some pair) :
    selection.isSelected = true := by
  rw [isSelected, isPair]
  rfl

/-- A stack register can be asked for only if a pair is selected. -/
theorem isSelected_of_stack? {stack : String} (isStack : selection.stack? = some stack) :
    selection.isSelected = true := by
  obtain ⟨pair, isPair, -⟩ := Option.map_eq_some_iff.mp isStack
  exact isSelected_of_pair? isPair

end Selection

namespace Handler

namespace Pattern

/-- How many memory writes and how many memory reads go with a pattern. -/
def Traffic : Pattern → Nat → Nat → Prop
  | popReg _ _ _, stores, loads => stores = 1 ∧ loads = 3
  | pushReg _ _, stores, loads => stores = 1 ∧ 3 ≤ loads
  | pushImm _ _ _, stores, loads => stores = 1 ∧ 2 ≤ loads
  | pushVsp _, stores, loads => stores = 1 ∧ loads = 1
  | readMem _ _, stores, loads => stores = 1 ∧ loads = 3
  | writeMem _, stores, loads => stores = 1 ∧ loads = 3
  | binary _ _, stores, loads => stores = 2 ∧ loads = 3
  | doubleShift _ _, stores, loads => stores = 2 ∧ loads = 4
  | mul _, stores, loads => stores = 3 ∧ loads = 3
  | cpuid, stores, _ => 4 ≤ stores
  | jmpConst, stores, loads => stores = 0 ∧ loads = 1
  | jmp, stores, loads => stores = 0 ∧ (loads = 1 ∨ loads = 2)
  | writeVsp, stores, loads => stores = 0 ∧ loads = 2
  | popfd, stores, loads => stores = 0 ∧ 2 ≤ loads
  | exit _, _, loads => 7 ≤ loads

/-- The matcher that a pattern comes from. -/
def matcher : Pattern → String
  | readMem _ _ => "mem_access"
  | writeMem _ => "mem_access"
  | pattern => pattern.name

/-- Whether a pattern can only be told from the registers of a selected pair. -/
def needsPair : Pattern → Bool
  | popReg _ _ _ => false
  | cpuid => false
  | jmpConst => false
  | exit _ => false
  | _ => true

/-- Every pattern stands for some memory traffic. -/
theorem Traffic.some {pattern : Pattern} {stores loads : Nat}
    (traffic : pattern.Traffic stores loads) : ¬ (stores = 0 ∧ loads = 0) := by
  cases pattern <;> simp only [Traffic] at traffic <;> omega

end Pattern

/-- How many memory writes and how many memory reads go with a verdict. -/
def Verdict.Traffic : Verdict → Nat → Nat → Prop
  | handler pattern, stores, loads => pattern.Traffic stores loads
  | stackGuard, stores, loads => stores = 0 ∧ loads = 0
  | junk, stores, loads => stores = 0 ∧ loads = 0
  | unknown, stores, loads => ¬ (stores = 0 ∧ loads = 0)

namespace Site

/-- What a handler has in any case once a matcher has found a pattern in it. -/
structure Shows (site : Site) (matcher : String) (pattern : Pattern) : Prop where
  named : pattern.matcher = matcher
  traffic : pattern.Traffic site.stores.length site.loads.length
  selected : pattern.needsPair = true → site.selection.isSelected = true

/-- A shape that comes with the traffic of its patterns. -/
def Tells (name : String) (shape : Site → Option Draft) : Prop :=
  ∀ site draft, shape site = some draft →
    ∀ decoder pattern, draft.resolve decoder = some pattern → Shows site name pattern

variable {site : Site} {decoder : Decoder}

/-! Handlers that move one value. -/

/-- A push of a virtual register writes once and reads at least three times. -/
theorem tells_pushReg : Tells "push_reg" pushReg? := by
  intro site draft shape decoder pattern resolved
  simp only [pushReg?, Option.bind_eq_bind, Option.bind_eq_some_iff,
    Option.ite_none_left_eq_some, Option.ite_none_right_eq_some] at shape
  obtain ⟨pair, isPair, many, store, pushes, slot, -, load, -, -, shape⟩ := shape
  obtain rfl := Option.some.inj shape
  obtain rfl := Option.some.inj resolved
  constructor
  · rfl
  · exact ⟨(pushStore?_shape pushes).1, by omega⟩
  · exact fun _ => Selection.isSelected_of_pair? isPair

/-- A push of an operand writes once and reads at least twice. -/
theorem tells_pushImm : Tells "push_imm" pushImm? := by
  intro site draft shape decoder pattern resolved
  simp only [pushImm?, Option.bind_eq_bind, Option.bind_eq_some_iff,
    Option.ite_none_left_eq_some] at shape
  obtain ⟨pair, isPair, many, store, pushes, load, -, -, shape⟩ := shape
  obtain rfl := Option.some.inj shape
  obtain rfl := Option.some.inj resolved
  constructor
  · rfl
  · exact ⟨(pushStore?_shape pushes).1, by omega⟩
  · exact fun _ => Selection.isSelected_of_pair? isPair

/-- A push of the stack pointer writes once and reads once. -/
theorem tells_pushVsp : Tells "push_vsp" pushVsp? := by
  intro site draft shape decoder pattern resolved
  simp only [pushVsp?, Option.bind_eq_bind, Option.bind_eq_some_iff,
    Option.ite_none_left_eq_some] at shape
  obtain ⟨stack, isStack, traffic, store, -, shape⟩ := shape
  split at shape
  · obtain rfl := Option.some.inj (Option.ite_none_right_eq_some.mp shape).2
    obtain rfl := Option.some.inj resolved
    constructor
    · rfl
    · exact traffic_eq.mp (not_not.mp traffic)
    · exact fun _ => Selection.isSelected_of_stack? isStack
  · cases shape

/-- A memory access writes once and reads three times, in either direction. -/
theorem tells_memAccess : Tells "mem_access" memAccess? := by
  intro site draft shape decoder pattern resolved
  simp only [memAccess?, Option.bind_eq_bind, Option.bind_eq_some_iff,
    Option.ite_none_left_eq_some] at shape
  obtain ⟨stack, isStack, traffic, store, -, load, -, shape⟩ := shape
  have numbers := traffic_eq.mp (not_not.mp traffic)
  have selected := Selection.isSelected_of_stack? isStack
  split at shape
  · rename_i target targets
    obtain ⟨-, segment, -, shape⟩ := by
      simpa only [Option.ite_none_left_eq_some, Option.bind_eq_some_iff] using shape
    obtain rfl := Option.some.inj shape
    obtain rfl := Option.some.inj resolved
    cases target.viaMemory with
    | true => exact ⟨rfl, numbers, fun _ => selected⟩
    | false => exact ⟨rfl, numbers, fun _ => selected⟩
  · cases shape

/-! Handlers that compute. -/

/-- The write of a computed result is only looked for with a pair selected. -/
theorem isSelected_of_resultStore? {store : Op} (writes : site.resultStore? = some store) :
    site.selection.isSelected = true := by
  simp only [resultStore?, Option.bind_eq_bind, Option.bind_eq_some_iff] at writes
  obtain ⟨stack, isStack, -⟩ := writes
  exact Selection.isSelected_of_stack? isStack

/-- A binary operation writes twice and reads three times. -/
theorem tells_binary : Tells "binary" binary? := by
  intro site draft shape decoder pattern resolved
  simp only [binary?, Option.bind_eq_bind, Option.bind_eq_some_iff,
    Option.ite_none_left_eq_some] at shape
  obtain ⟨traffic, store, writes, definition, -, op, -, load, -, shape⟩ := shape
  obtain rfl := Option.some.inj shape
  obtain rfl := Option.some.inj resolved
  constructor
  · rfl
  · exact traffic_eq.mp (not_not.mp traffic)
  · exact fun _ => isSelected_of_resultStore? writes

/-- A mnemonic decides on a pattern of a certain kind, whatever the width. -/
theorem exists_of_named {definition load : UInt64}
    {patternOf : Mnemonic → Option (UInt8 → Pattern)} {pattern : Pattern}
    (resolved : (Draft.named definition patternOf load).resolve decoder = some pattern) :
    ∃ mnemonic sized, patternOf mnemonic = some sized ∧
      pattern = sized (decoder.loadSize load) := by
  simp only [Draft.resolve, Option.map_eq_some_iff, Option.bind_eq_some_iff] at resolved
  obtain ⟨sized, ⟨mnemonic, -, isPattern⟩, rfl⟩ := resolved
  exact ⟨mnemonic, sized, isPattern, rfl⟩

/-- A double shift writes twice and reads four times. -/
theorem tells_doubleShift : Tells "double_shift" doubleShift? := by
  intro site draft shape decoder pattern resolved
  simp only [doubleShift?, Option.bind_eq_bind, Option.bind_eq_some_iff,
    Option.ite_none_left_eq_some] at shape
  obtain ⟨traffic, store, writes, definition, -, load, -, shape⟩ := shape
  obtain rfl := Option.some.inj shape
  obtain ⟨mnemonic, sized, isPattern, rfl⟩ := exists_of_named resolved
  obtain ⟨op, rfl⟩ := doubleShiftOf?_eq_some isPattern
  constructor
  · rfl
  · exact traffic_eq.mp (not_not.mp traffic)
  · exact fun _ => isSelected_of_resultStore? writes

/-- The processor identification needs no selected pair. -/
theorem tells_cpuid : Tells "cpuid" cpuid? := by
  intro site draft shape decoder pattern resolved
  simp only [cpuid?, Option.ite_none_left_eq_some, Option.ite_none_right_eq_some] at shape
  obtain ⟨many, -, shape⟩ := shape
  obtain rfl := Option.some.inj shape
  obtain rfl := Option.some.inj resolved
  constructor
  · rfl
  · exact Nat.not_lt.mp many
  · exact fun needs => absurd needs Bool.false_ne_true

/-- A multiplication writes three times and reads three times. -/
theorem tells_mul : Tells "mul" mul? := by
  intro site draft shape decoder pattern resolved
  simp only [mul?, Option.bind_eq_bind, Option.bind_eq_some_iff,
    Option.ite_none_left_eq_some] at shape
  obtain ⟨stack, isStack, traffic, store, -, load, -, shape⟩ := shape
  split at shape
  · simp only [Option.bind_eq_some_iff, Option.ite_none_right_eq_some] at shape
    obtain ⟨-, definition, -, shape⟩ := shape
    obtain rfl := Option.some.inj shape
    obtain ⟨mnemonic, sized, isPattern, rfl⟩ := exists_of_named resolved
    obtain rfl := productOf?_eq_some isPattern
    constructor
    · rfl
    · exact traffic_eq.mp (not_not.mp traffic)
    · exact fun _ => Selection.isSelected_of_stack? isStack
  · cases shape

/-! Handlers that change where execution goes on. -/

/-- A computed jump needs no selected pair. -/
theorem tells_jmpConst : Tells "jmp_const" jmpConst? := by
  intro site draft shape decoder pattern resolved
  simp only [jmpConst?, Option.ite_none_left_eq_some] at shape
  obtain ⟨traffic, shape⟩ := shape
  split at shape
  · obtain rfl := Option.some.inj (Option.ite_none_right_eq_some.mp shape).2
    obtain rfl := Option.some.inj resolved
    constructor
    · rfl
    · exact traffic_eq.mp (not_not.mp traffic)
    · exact fun needs => absurd needs Bool.false_ne_true
  · cases shape

/-- A jump from the stack writes nothing and reads once or twice, with a pair selected. -/
theorem jmp?_eq_some {draft : Draft} (shape : site.jmp? = some draft) :
    draft = .settled .jmp ∧ site.selection.isSelected = true ∧ site.stores = [] ∧
      (site.loads.length = 1 ∨ site.loads.length = 2) := by
  simp only [jmp?, Option.bind_eq_bind, Option.bind_eq_some_iff] at shape
  obtain ⟨stack, isStack, shape⟩ := shape
  have selected := Selection.isSelected_of_stack? isStack
  split at shape
  · rename_i load stores loads
    have isJmp := Option.some.inj (Option.ite_none_right_eq_some.mp shape).2
    exact ⟨isJmp.symm, selected, stores, .inl (by rw [loads]; rfl)⟩
  · rename_i first second stores loads
    have shape := (Option.ite_none_right_eq_some.mp shape).2
    split at shape
    · have isJmp := Option.some.inj (Option.ite_none_right_eq_some.mp shape).2
      exact ⟨isJmp.symm, selected, stores, .inr (by rw [loads]; rfl)⟩
    · cases shape
  · cases shape

/-- A jump from the stack comes with its traffic. -/
theorem tells_jmp : Tells "jmp" jmp? := by
  intro site draft shape decoder pattern resolved
  obtain ⟨rfl, selected, stores, loads⟩ := jmp?_eq_some shape
  obtain rfl := Option.some.inj resolved
  constructor
  · rfl
  · exact ⟨List.length_eq_zero_iff.mpr stores, loads⟩
  · exact fun _ => selected

/-- A write of the stack pointer reads twice and writes nothing. -/
theorem tells_writeVsp : Tells "write_vsp" writeVsp? := by
  intro site draft shape decoder pattern resolved
  simp only [writeVsp?, Option.bind_eq_bind, Option.bind_eq_some_iff,
    Option.ite_none_left_eq_some] at shape
  obtain ⟨stack, isStack, traffic, shape⟩ := shape
  split at shape
  · obtain rfl := Option.some.inj (Option.ite_none_right_eq_some.mp shape).2
    obtain rfl := Option.some.inj resolved
    constructor
    · rfl
    · exact traffic_eq.mp (not_not.mp traffic)
    · exact fun _ => Selection.isSelected_of_stack? isStack
  · cases shape

/-- A single read through the stack register makes a jump. -/
theorem jmp?_of_single {stack : String} {load : Op}
    (isStack : site.selection.stack? = some stack) (stores : site.stores = [])
    (loads : site.loads = [load]) (through : site.pointerRegister? load = some stack) :
    site.jmp? = some (.settled .jmp) := by
  simp [jmp?, isStack, stores, loads, through]

/-- The flags are replaced by what is read first, through the stack register. -/
theorem popfd?_eq_some {draft : Draft} (shape : site.popfd? = some draft) :
    draft = .settled .popfd ∧ ∃ stack load rest, site.selection.stack? = some stack ∧
      site.stores = [] ∧ site.loads = load :: rest ∧ site.pointerRegister? load = some stack := by
  simp only [popfd?, Option.bind_eq_bind, Option.bind_eq_some_iff] at shape
  obtain ⟨stack, isStack, shape⟩ := shape
  split at shape
  · rename_i load rest stores loads
    simp only [Option.ite_none_right_eq_some, Option.bind_eq_some_iff] at shape
    obtain ⟨through, value, -, -, shape⟩ := shape
    exact ⟨(Option.some.inj shape).symm, stack, load, rest, isStack, stores, loads, through⟩
  · cases shape

/-- An exit needs no selected pair. -/
theorem tells_exit : Tells "exit" exit? := by
  intro site draft shape decoder pattern resolved
  simp only [exit?, Option.ite_none_left_eq_some, Option.map_eq_some_iff] at shape
  obtain ⟨many, restored, -, rfl⟩ := shape
  obtain rfl := Option.some.inj resolved
  constructor
  · rfl
  · exact Nat.not_lt.mp many
  · exact fun needs => absurd needs Bool.false_ne_true

end Site

/-! Matchers. -/

namespace Matcher

/-- A matcher whose patterns come with their traffic. -/
def IsTelling (matcher : Matcher) : Prop :=
  ∀ decoder site pattern, matcher.apply decoder site = .ok pattern →
    Site.Shows site matcher.name pattern

variable {matcher : Matcher} {decoder : Decoder} {site : Site} {pattern : Pattern}

/-- A matcher finds a pattern by drafting it and by resolving the draft with the decoder. -/
theorem apply_eq_ok :
    matcher.apply decoder site = .ok pattern ↔
      ∃ draft, matcher.draft site = .ok draft ∧ draft.resolve decoder = some pattern := by
  unfold apply
  constructor
  · intro applied
    split at applied
    · cases applied
    · rename_i draft drafted
      split at applied
      · rename_i resolved
        obtain rfl := Except.ok.inj applied
        exact ⟨draft, drafted, resolved⟩
      · cases applied
  · rintro ⟨draft, drafted, resolved⟩
    rw [drafted]
    dsimp only
    rw [resolved]

/-- A matcher that only looks for a shape drafts what the shape is. -/
theorem draft_ofShape {name : String} {shape : Site → Option Draft} {draft : Draft} :
    (ofShape name shape).draft site = .ok draft ↔ shape site = some draft := by
  cases found : shape site with
  | none => simp [ofShape, found]
  | some other => simp [ofShape, found]

/-- A matcher that only looks for a shape finds the patterns that the shape resolves to. -/
theorem apply_ofShape {name : String} {shape : Site → Option Draft} :
    (ofShape name shape).apply decoder site = .ok pattern ↔
      ∃ draft, shape site = some draft ∧ draft.resolve decoder = some pattern := by
  rw [apply_eq_ok]
  exact exists_congr fun draft => and_congr_left' draft_ofShape

/-- The patterns of a matcher come with their traffic if those of its shape do. -/
theorem isTelling_ofShape {name : String} {shape : Site → Option Draft}
    (tells : Site.Tells name shape) : (ofShape name shape).IsTelling := by
  intro decoder site pattern applied
  obtain ⟨draft, found, resolved⟩ := apply_ofShape.mp applied
  exact tells site draft found decoder pattern resolved

end Matcher

/-- The pattern of a pop, by the store and the origin of the popped value. -/
def popPattern (decoder : Decoder) (pair : RegisterPair) (store : Op) (source : Origin) : Pattern :=
  .popReg (source.address.elim 0 decoder.loadSize) store.address pair

/-- A pop is recognised by the pair that it reveals, unless another one is selected. -/
theorem apply_popReg {decoder : Decoder} {site : Site} {pattern : Pattern} :
    popRegMatcher.apply decoder site = .ok pattern ↔
      ∃ pair store source, site.revealedPair? = some (pair, store, source) ∧
        site.selection.admits pair = true ∧ popPattern decoder pair store source = pattern := by
  rw [Matcher.apply_eq_ok]
  dsimp only [popRegMatcher]
  cases reveals : site.revealedPair? with
  | none => simp
  | some found =>
      obtain ⟨pair, store, source⟩ := found
      dsimp only
      cases admitted : site.selection.admits pair with
      | false => simp [admitted]
      | true =>
          rcases source with ⟨name, viaMemory, _ | load⟩
          · simp [popPattern, Draft.resolve, admitted]
          · simp [popPattern, Draft.resolve, Decoder.loadSize, admitted]

/-- A pop writes once and reads three times, whether a pair is selected or not. -/
theorem isTelling_popReg : popRegMatcher.IsTelling := by
  intro decoder site pattern applied
  obtain ⟨pair, store, source, reveals, -, rfl⟩ := apply_popReg.mp applied
  constructor
  · rfl
  · exact Site.traffic_eq.mp (Site.revealedPair?_targets reveals).1
  · exact fun needs => absurd needs Bool.false_ne_true

/-- The patterns of the main battery come with their traffic. -/
theorem shows_of_mem : ∀ matcher ∈ mainMatchers, matcher.IsTelling := by
  intro matcher member
  simp only [mainMatchers, transferMatchers, arithmeticMatchers, controlMatchers,
    List.mem_append, List.mem_cons, List.not_mem_nil, or_false] at member
  rcases member with ((rfl | rfl | rfl | rfl | rfl) | rfl | rfl | rfl | rfl) | rfl | rfl | rfl
  · exact isTelling_popReg
  · exact Matcher.isTelling_ofShape Site.tells_pushReg
  · exact Matcher.isTelling_ofShape Site.tells_pushImm
  · exact Matcher.isTelling_ofShape Site.tells_pushVsp
  · exact Matcher.isTelling_ofShape Site.tells_memAccess
  · exact Matcher.isTelling_ofShape Site.tells_binary
  · exact Matcher.isTelling_ofShape Site.tells_doubleShift
  · exact Matcher.isTelling_ofShape Site.tells_cpuid
  · exact Matcher.isTelling_ofShape Site.tells_mul
  · exact Matcher.isTelling_ofShape Site.tells_jmpConst
  · exact Matcher.isTelling_ofShape Site.tells_jmp
  · exact Matcher.isTelling_ofShape Site.tells_writeVsp

/-! The battery. -/

namespace Site

variable {site : Site} {decoder : Decoder} {pattern : Pattern}

/-- A result without its refusal is the pattern exactly if the pattern was found. -/
theorem toOption_eq_some {refusal : Type} {result : Except refusal Pattern} :
    result.toOption = some pattern ↔ result = .ok pattern := by
  cases result with
  | error _ => simp [Except.toOption]
  | ok _ => simp [Except.toOption]

/-- A pattern is found by the main battery, or by a matcher that is tried after all of the main
battery has declined. -/
theorem exists_of_pattern? (found : site.pattern? decoder = some pattern) :
    (∃ matcher ∈ mainMatchers, matcher.apply decoder site = .ok pattern) ∨
      (∀ matcher ∈ mainMatchers, ∀ other, matcher.apply decoder site ≠ .ok other) ∧
        ∃ matcher ∈ fallbackMatchers, matcher.apply decoder site = .ok pattern := by
  rw [pattern?, matchers, List.findSome?_append, Option.or_eq_some_iff] at found
  rcases found with found | ⟨declined, found⟩
  · obtain ⟨matcher, member, applied⟩ := List.exists_of_findSome?_eq_some found
    exact .inl ⟨matcher, member, toOption_eq_some.mp applied⟩
  · obtain ⟨matcher, member, applied⟩ := List.exists_of_findSome?_eq_some found
    refine .inr ⟨?_, matcher, member, toOption_eq_some.mp applied⟩
    intro earlier isMain other accepted
    have nothing := List.findSome?_eq_none_iff.mp declined earlier isMain
    rw [toOption_eq_some.mpr accepted] at nothing
    cases nothing

/-- A single read through the stack register is not left for the last matchers. -/
theorem shows_popfd {draft : Draft} (shape : site.popfd? = some draft)
    (resolved : draft.resolve decoder = some pattern)
    (declined : ∀ other, (Matcher.ofShape "jmp" jmp?).apply decoder site ≠ .ok other) :
    Shows site "popfd" pattern := by
  obtain ⟨rfl, stack, load, rest, isStack, stores, loads, through⟩ := popfd?_eq_some shape
  obtain rfl := Option.some.inj resolved
  constructor
  · rfl
  · constructor
    · exact List.length_eq_zero_iff.mpr stores
    · cases rest with
      | nil =>
          have jumps := jmp?_of_single isStack stores loads through
          exact absurd (Matcher.apply_ofShape.mpr ⟨_, jumps, rfl⟩) (declined .jmp)
      | cons second rest => simp [loads]
  · exact fun _ => Selection.isSelected_of_stack? isStack

/-- The pattern that a handler is recognised by comes with its traffic. -/
theorem shows_of_pattern? (found : site.pattern? decoder = some pattern) :
    ∃ matcher ∈ matchers, matcher.apply decoder site = .ok pattern ∧
      Shows site matcher.name pattern := by
  rcases exists_of_pattern? found with
    ⟨matcher, member, applied⟩ | ⟨declined, matcher, member, applied⟩
  · exact ⟨matcher, List.mem_append_left _ member, applied,
      shows_of_mem matcher member decoder site pattern applied⟩
  · refine ⟨matcher, List.mem_append_right _ member, applied, ?_⟩
    have noJump := declined (.ofShape "jmp" jmp?) (by simp [mainMatchers, controlMatchers])
    simp only [fallbackMatchers, List.mem_cons, List.not_mem_nil, or_false] at member
    rcases member with rfl | rfl
    · obtain ⟨draft, shape, resolved⟩ := Matcher.apply_ofShape.mp applied
      exact shows_popfd shape resolved noJump
    · exact Matcher.isTelling_ofShape tells_exit decoder site pattern applied

/-! Verdicts. -/

/-- Code without any memory traffic is recognised by no matcher. -/
theorem pattern?_of_no_traffic (silent : site.traffic = (0, 0)) :
    site.pattern? decoder = none := by
  cases found : site.pattern? decoder with
  | none => rfl
  | some pattern =>
      obtain ⟨matcher, -, -, shows⟩ := shows_of_pattern? found
      exact absurd (traffic_eq.mp silent) shows.traffic.some

/-- Code without any memory traffic is a stack guard if it reserves native stack, and junk if not.
-/
theorem verdict_of_no_traffic (silent : site.traffic = (0, 0)) :
    site.verdict decoder =
      if site.fragment.ops.any site.fragment.isStackReservation then .stackGuard else .junk := by
  rw [verdict, pattern?_of_no_traffic silent]
  simp [isStackGuard, isJunk, silent]

/-- A pattern that the battery finds is the verdict. -/
theorem verdict_of_pattern? (found : site.pattern? decoder = some pattern) :
    site.verdict decoder = .handler pattern := by
  rw [verdict, found]

/-- A handler is recognised exactly by the patterns that the battery finds. -/
theorem verdict_eq_handler :
    site.verdict decoder = .handler pattern ↔ site.pattern? decoder = some pattern := by
  rw [verdict]
  cases site.pattern? decoder with
  | none =>
      dsimp only
      split
      · simp
      · split <;> simp
  | some other => simp

/-- Whatever has memory traffic is a handler, or unknown. -/
theorem verdict_of_traffic (loud : site.traffic ≠ (0, 0)) :
    (∃ pattern, site.verdict decoder = .handler pattern) ∨ site.verdict decoder = .unknown := by
  cases found : site.pattern? decoder with
  | some pattern => exact .inl ⟨pattern, verdict_of_pattern? found⟩
  | none => simp [verdict, found, isStackGuard, isJunk, loud]

/-- Code is a stack guard or junk exactly if it has no memory traffic. -/
theorem verdict_eq_guard_or_junk :
    site.verdict decoder = .stackGuard ∨ site.verdict decoder = .junk ↔
      site.traffic = (0, 0) := by
  constructor
  · intro effectless
    by_contra loud
    rcases @verdict_of_traffic site decoder loud with ⟨pattern, isHandler⟩ | isUnknown
    · simp [isHandler] at effectless
    · simp [isUnknown] at effectless
  · intro silent
    rw [verdict_of_no_traffic silent]
    split
    · exact .inl rfl
    · exact .inr rfl

/-- What some matcher accepts is recognised, if not necessarily by this one. -/
theorem exists_pattern?_of_accepted {matcher : Matcher} (member : matcher ∈ matchers)
    (accepted : matcher.apply decoder site = .ok pattern) :
    ∃ first, site.pattern? decoder = some first := by
  rw [pattern?, ← Option.isSome_iff_exists, List.findSome?_isSome_iff]
  exact ⟨matcher, member, by rw [toOption_eq_some.mpr accepted]; rfl⟩

/-- A single read through the stack register is taken for a jump of one kind or the other. -/
theorem verdict_of_single {stack : String} {load : Op}
    (isStack : site.selection.stack? = some stack) (stores : site.stores = [])
    (loads : site.loads = [load]) (through : site.pointerRegister? load = some stack) :
    site.verdict decoder = .handler .jmpConst ∨ site.verdict decoder = .handler .jmp := by
  have jumps : (Matcher.ofShape "jmp" jmp?).apply decoder site = .ok .jmp :=
    Matcher.apply_ofShape.mpr ⟨_, jmp?_of_single isStack stores loads through, rfl⟩
  obtain ⟨pattern, found⟩ :=
    exists_pattern?_of_accepted (by simp [matchers, mainMatchers, controlMatchers]) jumps
  obtain ⟨matcher, -, -, shows⟩ := shows_of_pattern? found
  have traffic : pattern.Traffic 0 1 := by simpa [stores, loads] using shows.traffic
  rw [verdict_of_pattern? found]
  cases pattern with
  | jmpConst => exact .inl rfl
  | jmp => exact .inr rfl
  | _ => simp [Pattern.Traffic] at traffic

end Site

/-- The memory traffic of a handler is the one that goes with what it turns out to be. Stack guards
and junk are exactly the code without any, so a recognised handler has some, and so has an unknown
one. A single read through the stack register never counts as a change of the flags, because it is
taken for a jump. -/
theorem verdict_traffic (site : Site) (decoder : Decoder) :
    (site.verdict decoder).Traffic site.stores.length site.loads.length ∧
      (site.verdict decoder = .stackGuard ∨ site.verdict decoder = .junk ↔
        site.traffic = (0, 0)) ∧
      ∀ stack load, site.selection.stack? = some stack → site.stores = [] →
        site.loads = [load] → site.pointerRegister? load = some stack →
          site.verdict decoder = .handler .jmpConst ∨ site.verdict decoder = .handler .jmp := by
  refine ⟨?_, Site.verdict_eq_guard_or_junk, fun _ _ => Site.verdict_of_single⟩
  by_cases silent : site.traffic = (0, 0)
  · have none := Site.traffic_eq.mp silent
    rw [Site.verdict_of_no_traffic silent]
    split
    · exact none
    · exact none
  · rcases @Site.verdict_of_traffic site decoder silent with ⟨pattern, isHandler⟩ | isUnknown
    · obtain ⟨matcher, -, -, shows⟩ := Site.shows_of_pattern? (Site.verdict_eq_handler.mp isHandler)
      rw [isHandler]
      exact shows.traffic
    · rw [isUnknown]
      exact fun none => silent (Site.traffic_eq.mpr none)

section Witness

open Simulation

/-- A single read through the selected stack register, copied into the flags. -/
def selectedJump : Site where
  fragment :=
    { entry := 0x402000
      values :=
        #[⟨.register "EBP", 4, none⟩, ⟨.temporary, 4, some 0⟩, ⟨.register "EFLAGS", 4, some 1⟩]
      ops := #[⟨0x402000, .load, [0], some 1⟩, ⟨0x402003, .copy, [1], some 2⟩] }
  selection := .of revealed

/-- The handler has the shape of a change of the flags and is taken for a jump all the same. -/
theorem selectedJump_traffic :
    selectedJump.popfd?.isSome = true ∧ selectedJump.traffic = (0, 1) ∧
      (selectedJump.verdict loadTable = .handler .jmpConst ∨
        selectedJump.verdict loadTable = .handler .jmp) := by
  refine ⟨by cbv, by decide, ?_⟩
  exact (verdict_traffic selectedJump loadTable).2.2 "EBP" ⟨0x402000, .load, [0], some 1⟩ rfl
    (by decide) (by decide) (by decide)

end Witness

end Handler

end VmRecovery

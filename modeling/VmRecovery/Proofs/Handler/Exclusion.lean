import Mathlib
import VmRecovery.Handler.Verdict
import VmRecovery.Proofs.Simulation.Handlers

/-!
# One matcher for each handler that writes memory

The main battery is tried in a fixed order, but for a handler that writes memory the order does
not matter. The dataflow names the one matcher that can accept (`Site.candidate`): the numbers of
writes and reads tell most of them apart, and where five matchers share a single write, the
origins of its pointer and of its value do. This needs a selected pair whose registers differ from
each other and from the native stack pointer, since the matchers tell the VM stack, the bytecode
and the save area apart by register names only.

`storeHandlers_matched_once` concludes that at most one matcher of the main battery accepts and
that any other order of the battery leads to the same verdict.
-/

namespace VmRecovery

open Ir Native

/-- The registers of a pair are two different ones, and neither is the native stack pointer. -/
structure RegisterPair.Apart (pair : RegisterPair) : Prop where
  codeStack : sameName pair.code pair.stack = false
  codeNative : sameName pair.code "ESP" = false
  stackNative : sameName pair.stack "ESP" = false

namespace Ir

/-- Sameness of names up to case is symmetric. -/
theorem sameName_comm {left right : String} (same : sameName left right = true) :
    sameName right left = true := by
  rw [sameName, beq_iff_eq] at same ⊢
  exact same.symm

/-- Sameness of names up to case is transitive. -/
theorem sameName_trans {left middle right : String} (first : sameName left middle = true)
    (second : sameName middle right = true) : sameName left right = true := by
  rw [sameName, beq_iff_eq] at first second ⊢
  exact first.trans second

/-- An origin matches a register that it is named after, read through memory or not as it is asked
for. -/
theorem Origin.matches_eq_true {origin : Origin} {name : String} {viaMemory : Bool} :
    origin.matches name viaMemory = true ↔
      origin.viaMemory = viaMemory ∧ sameName origin.name name = true := by
  rw [Origin.matches, Bool.and_eq_true, beq_iff_eq]

/-- One origin is read through one register only. -/
theorem Origin.matches_same {origin : Origin} {name other : String} {viaMemory : Bool}
    (first : origin.matches name viaMemory = true)
    (second : origin.matches other viaMemory = true) : sameName name other = true :=
  sameName_trans (sameName_comm (matches_eq_true.mp first).2) (matches_eq_true.mp second).2

end Ir

namespace Handler

namespace Site

variable (site : Site)

/-! The matcher that the dataflow calls for. -/

/-- The origins of the pointer of the first memory write. -/
def leadingTargets : List Origin :=
  site.stores.head?.elim [] site.targetOrigins

/-- The origins of the value of the first memory write. -/
def leadingSources : List Origin :=
  site.stores.head?.elim [] site.sourceOrigins

/-- Whether the first memory write stores nothing that was read from memory, except through the
selected code register. -/
def storesBytecode : Bool :=
  site.leadingSources.all fun origin =>
    !origin.viaMemory || site.selection.code? == some origin.name

/-- Whether the first memory write stores a value from the native stack, together with one that
was read through the selected code register. -/
def storesSlot : Bool :=
  site.leadingSources.any (·.matches "ESP" true) &&
    site.selection.code?.any fun code => site.leadingSources.any (·.matches code true)

/-- The matcher that a single memory write calls for. -/
def transferCandidate : String :=
  if site.loads.length = 1 then "push_vsp"
  else if site.leadingTargets.length ≠ 1 then "pop_reg"
  else if site.storesBytecode then "push_imm"
  else if site.storesSlot then "push_reg"
  else "mem_access"

/-- The matcher of the main battery that the dataflow of a handler with memory writes calls for. -/
def candidate : String :=
  if site.stores.length = 1 then site.transferCandidate
  else if 4 ≤ site.stores.length then "cpuid"
  else if site.stores.length = 3 then "mul"
  else if site.loads.length = 3 then "binary"
  else "double_shift"

/-- A handler that writes memory, with a selection that tells the registers apart. -/
structure Regular : Prop where
  writes : site.stores ≠ []
  apart : ∀ pair, site.selection.pair? = some pair → pair.Apart

variable {site}

/-- The traffic is the number of writes and the number of reads. -/
theorem traffic_eq {stores loads : Nat} :
    site.traffic = (stores, loads) ↔ site.stores.length = stores ∧ site.loads.length = loads :=
  Prod.mk.injEq .. ▸ Iff.rfl

/-- The leading targets are those of the first write. -/
theorem leadingTargets_eq {store : Op} (first : site.stores.head? = some store) :
    site.leadingTargets = site.targetOrigins store := by
  rw [leadingTargets, first]
  rfl

/-- The leading sources are those of the first write. -/
theorem leadingSources_eq {store : Op} (first : site.stores.head? = some store) :
    site.leadingSources = site.sourceOrigins store := by
  rw [leadingSources, first]
  rfl

/-- A selected stack register is that of the selected pair. -/
theorem selected_of_stack {stack : String} (isStack : site.selection.stack? = some stack) :
    ∃ pair, site.selection.pair? = some pair ∧ pair.stack = stack :=
  Option.map_eq_some_iff.mp isStack

/-- The selected code register is that of the selected pair. -/
theorem code?_of_selected {pair : RegisterPair} (selected : site.selection.pair? = some pair) :
    site.selection.code? = some pair.code := by
  rw [Selection.code?, selected]
  rfl

/-- Nothing is read through the stack register or the native stack pointer where memory is read
through the code register only. -/
theorem not_storesBytecode {pair : RegisterPair} (selected : site.selection.pair? = some pair)
    {name : String} (different : sameName pair.code name = false) {origin : Origin}
    (member : origin ∈ site.leadingSources) (read : origin.matches name true = true) :
    site.storesBytecode = false := by
  obtain ⟨viaMemory, named⟩ := Origin.matches_eq_true.mp read
  rw [storesBytecode, List.all_eq_false]
  refine ⟨origin, member, ?_⟩
  rw [viaMemory, code?_of_selected selected]
  rintro isCode
  have isCode : pair.code = origin.name := by simpa using isCode
  rw [← isCode, different] at named
  exact absurd named Bool.false_ne_true

/-- A shape that is found in regular handlers only if they call for a certain matcher. -/
def CalledFor (name : String) (shape : Site → Option Draft) : Prop :=
  ∀ site : Site, site.Regular → ∀ draft, shape site = some draft → site.candidate = name

/-! Handlers that move one value. -/

/-- What a pop reveals its pair by: the stack register is the only origin of the stored value, the
code register another origin of the pointer, which derives from the native stack pointer as well. -/
theorem revealedPair?_inversion {pair : RegisterPair} {store : Op} {source : Origin}
    (reveals : site.revealedPair? = some (pair, store, source)) :
    site.traffic = (1, 3) ∧ site.stores.head? = some store ∧
      (∃ code ∈ site.targetOrigins store, code.viaMemory = true ∧ code.name ≠ source.name ∧
        pair = { code := code.name, stack := source.name }) ∧
      ∃ base ∈ site.targetOrigins store, base.matches "ESP" false = true := by
  unfold revealedPair? at reveals
  split at reveals
  · cases reveals
  rename_i traffic
  split at reveals
  · cases reveals
  rename_i first
  dsimp only at reveals
  split at reveals
  · split at reveals
    · cases reveals
    rename_i code isCode
    split at reveals
    · rename_i combined
      cases reveals
      obtain ⟨member, kept⟩ := List.mem_filter.mp (List.mem_of_getLast? isCode)
      obtain ⟨viaMemory, different⟩ := Bool.and_eq_true_iff.mp kept
      refine ⟨not_not.mp traffic, first, ⟨code, member, viaMemory, ?_, rfl⟩, ?_⟩
      · exact bne_iff_ne.mp different
      · exact List.any_eq_true.mp (Bool.and_eq_true_iff.mp combined).2
    · cases reveals
  · cases reveals

/-- The pointer of a pop derives from the native stack pointer and from an operand in memory. -/
theorem revealedPair?_targets {pair : RegisterPair} {store : Op} {source : Origin}
    (reveals : site.revealedPair? = some (pair, store, source)) :
    site.traffic = (1, 3) ∧
      (∃ operand ∈ site.leadingTargets, operand.viaMemory = true) ∧
        ∃ base ∈ site.leadingTargets, base.viaMemory = false := by
  obtain ⟨traffic, first, ⟨code, isTarget, viaMemory, -, -⟩, base, isBase, native⟩ :=
    revealedPair?_inversion reveals
  rw [leadingTargets_eq first]
  exact ⟨traffic, ⟨code, isTarget, viaMemory⟩, base, isBase, (Origin.matches_eq_true.mp native).1⟩

/-- A pop is told apart from the other single writes by the number of pointer origins. -/
theorem candidate_of_revealedPair? {pair : RegisterPair} {store : Op} {source : Origin}
    (reveals : site.revealedPair? = some (pair, store, source)) : site.candidate = "pop_reg" := by
  obtain ⟨traffic, ⟨operand, isOperand, viaMemory⟩, base, isBase, bare⟩ :=
    revealedPair?_targets reveals
  obtain ⟨one, three⟩ := traffic_eq.mp traffic
  have several : site.leadingTargets.length ≠ 1 := by
    intro single
    obtain ⟨target, targets⟩ := List.length_eq_one_iff.mp single
    rw [targets, List.mem_singleton] at isOperand isBase
    rw [← isBase.trans isOperand.symm, bare] at viaMemory
    exact Bool.false_ne_true viaMemory
  rw [candidate, if_pos one, transferCandidate, if_neg (by omega), if_pos several]

/-- A push writes once, through a single pointer origin. -/
theorem pushStore?_shape {stack : String} {store : Op}
    (pushes : site.pushStore? stack = some store) :
    site.stores.length = 1 ∧ site.stores.head? = some store ∧
      site.leadingTargets.length = 1 := by
  rw [pushStore?] at pushes
  split at pushes
  · rename_i only stores
    split at pushes
    · rename_i target targets
      obtain rfl := Option.some.inj (Option.ite_none_right_eq_some.mp pushes).2
      have first : site.stores.head? = some only := by rw [stores]; rfl
      exact ⟨by rw [stores]; rfl, first, by rw [leadingTargets_eq first, targets]; rfl⟩
    · cases pushes
  · cases pushes

/-- A virtual register is pushed by a single write of what was read through both `ESP` and the code
register. -/
theorem calledFor_pushReg : CalledFor "push_reg" pushReg? := by
  intro site regular draft shape
  simp only [pushReg?, Option.bind_eq_bind, Option.bind_eq_some_iff,
    Option.ite_none_left_eq_some] at shape
  obtain ⟨pair, selected, loads, store, pushes, slot, isSlot, load, -, shape⟩ := shape
  obtain ⟨one, first, single⟩ := pushStore?_shape pushes
  obtain ⟨member, read⟩ := List.mem_filter.mp (List.mem_of_getLast? isSlot)
  rw [← leadingSources_eq first] at member shape
  have slots : site.storesSlot = true := by
    rw [storesSlot, code?_of_selected selected, Bool.and_eq_true]
    exact ⟨List.any_eq_true.mpr ⟨slot, member, read⟩, (Option.ite_none_right_eq_some.mp shape).1⟩
  have notBytecode : site.storesBytecode = false :=
    not_storesBytecode selected (regular.apart pair selected).codeNative member read
  rw [candidate, if_pos one, transferCandidate, if_neg (by omega), if_neg (not_not.mpr single),
    notBytecode, if_neg Bool.false_ne_true, if_pos slots]

/-- An operand is pushed by a single write of what was read through the code register only. -/
theorem calledFor_pushImm : CalledFor "push_imm" pushImm? := by
  intro site regular draft shape
  simp only [pushImm?, Option.bind_eq_bind, Option.bind_eq_some_iff,
    Option.ite_none_left_eq_some] at shape
  obtain ⟨pair, selected, loads, store, pushes, load, -, none, -⟩ := shape
  obtain ⟨one, first, single⟩ := pushStore?_shape pushes
  have bytecode : site.storesBytecode = true := by
    rw [storesBytecode, leadingSources_eq first, code?_of_selected selected, List.all_eq_true]
    intro origin member
    have kept : origin.viaMemory = true → origin.name = pair.code := by
      simpa using List.any_eq_false.mp (Bool.eq_false_iff.mpr none) origin member
    cases through : origin.viaMemory with
    | false => rfl
    | true => simp [kept through]
  rw [candidate, if_pos one, transferCandidate, if_neg (by omega), if_neg (not_not.mpr single),
    if_pos bytecode]

/-- The stack pointer is pushed by the only handler with a single write and a single read. -/
theorem calledFor_pushVsp : CalledFor "push_vsp" pushVsp? := by
  intro site regular draft shape
  simp only [pushVsp?, Option.bind_eq_bind, Option.bind_eq_some_iff,
    Option.ite_none_left_eq_some] at shape
  obtain ⟨stack, -, traffic, -⟩ := shape
  obtain ⟨one, one'⟩ := traffic_eq.mp (not_not.mp traffic)
  rw [candidate, if_pos one, transferCandidate, if_pos one']

/-- The accessed value is the last of at most two origins. -/
theorem accessSegment?_shape {stack : String} {origins : List Origin} {segment : Option Segment}
    (accesses : accessSegment? stack origins = some segment) :
    ∃ value, value.matches stack true = true ∧
      (origins = [value] ∨ ∃ base, origins = [base, value]) := by
  unfold accessSegment? at accesses
  split at accesses
  · rename_i value
    exact ⟨value, (Option.ite_none_right_eq_some.mp accesses).1, .inl rfl⟩
  · rename_i base value
    exact ⟨value, (Option.ite_none_right_eq_some.mp accesses).1, .inr ⟨base, rfl⟩⟩
  · cases accesses

/-- At most one origin stands beside the accessed value. It cannot be both the native stack and
the bytecode, and the value itself is neither. -/
theorem not_storesSlot {pair : RegisterPair} (selected : site.selection.pair? = some pair)
    (apart : pair.Apart) {value : Origin} (isValue : value.matches pair.stack true = true)
    (sources : site.leadingSources = [value] ∨ ∃ base, site.leadingSources = [base, value]) :
    site.storesSlot = false := by
  have notNative : value.matches "ESP" true = false := by
    rw [← Bool.not_eq_true]
    intro native
    exact absurd (Origin.matches_same isValue native) (by rw [apart.stackNative]; decide)
  have notCode : value.matches pair.code true = false := by
    rw [← Bool.not_eq_true]
    intro code
    exact absurd (Origin.matches_same code isValue) (by rw [apart.codeStack]; decide)
  rw [storesSlot, code?_of_selected selected, Option.any_some]
  rcases sources with sources | ⟨base, sources⟩
  · simp [sources, notNative]
  · cases native : base.matches "ESP" true with
    | false => simp [sources, notNative, native]
    | true =>
        have notBoth : base.matches pair.code true = false := by
          rw [← Bool.not_eq_true]
          intro code
          exact absurd (Origin.matches_same code native) (by rw [apart.codeNative]; decide)
        simp [sources, notCode, notBoth]

/-- A memory access writes what was read through the stack register, so neither an operand nor a
virtual register. -/
theorem calledFor_memAccess : CalledFor "mem_access" memAccess? := by
  intro site regular draft shape
  simp only [memAccess?, Option.bind_eq_bind, Option.bind_eq_some_iff,
    Option.ite_none_left_eq_some] at shape
  obtain ⟨stack, isStack, traffic, store, first, load, -, shape⟩ := shape
  obtain ⟨pair, selected, rfl⟩ := selected_of_stack isStack
  obtain ⟨one, three⟩ := traffic_eq.mp (not_not.mp traffic)
  split at shape
  · rename_i target targets
    obtain ⟨-, segment, accesses, -⟩ := by
      simpa only [Option.ite_none_left_eq_some, Option.bind_eq_some_iff] using shape
    rw [← leadingSources_eq first] at accesses
    have single : site.leadingTargets.length = 1 := by
      rw [leadingTargets_eq first, targets]
      rfl
    have apart := regular.apart pair selected
    obtain ⟨value, isValue, sources⟩ := accessSegment?_shape accesses
    have member : value ∈ site.leadingSources := by
      rcases sources with sources | ⟨base, sources⟩ <;> simp [sources]
    have notBytecode : site.storesBytecode = false :=
      not_storesBytecode selected apart.codeStack member isValue
    rw [candidate, if_pos one, transferCandidate, if_neg (by omega), if_neg (not_not.mpr single),
      notBytecode, if_neg Bool.false_ne_true, not_storesSlot selected apart isValue sources,
      if_neg Bool.false_ne_true]
  · cases shape

/-! Handlers that compute. -/

/-- A binary operation is called for by two writes and three reads. -/
theorem calledFor_binary : CalledFor "binary" binary? := by
  intro site regular draft shape
  obtain ⟨traffic, -⟩ := Option.ite_none_left_eq_some.mp shape
  obtain ⟨two, three⟩ := traffic_eq.mp (not_not.mp traffic)
  simp [candidate, two, three]

/-- A double shift is called for by two writes and four reads. -/
theorem calledFor_doubleShift : CalledFor "double_shift" doubleShift? := by
  intro site regular draft shape
  obtain ⟨traffic, -⟩ := Option.ite_none_left_eq_some.mp shape
  obtain ⟨two, four⟩ := traffic_eq.mp (not_not.mp traffic)
  simp [candidate, two, four]

/-- A processor query is called for by four writes or more. -/
theorem calledFor_cpuid : CalledFor "cpuid" cpuid? := by
  intro site regular draft shape
  obtain ⟨many, -⟩ := Option.ite_none_left_eq_some.mp shape
  rw [candidate, if_neg (by omega), if_pos (not_lt.mp many)]

/-- A multiplication is called for by three writes. -/
theorem calledFor_mul : CalledFor "mul" mul? := by
  intro site regular draft shape
  simp only [mul?, Option.bind_eq_bind, Option.bind_eq_some_iff,
    Option.ite_none_left_eq_some] at shape
  obtain ⟨stack, -, traffic, -⟩ := shape
  obtain ⟨three, -⟩ := traffic_eq.mp (not_not.mp traffic)
  simp [candidate, three]

/-! Handlers that change where execution goes on write no memory. -/

/-- A shape without memory writes is called for by no regular handler. -/
theorem calledFor_of_no_stores {name : String} {shape : Site → Option Draft}
    (silent : ∀ site draft, shape site = some draft → site.stores = []) :
    CalledFor name shape :=
  fun site regular draft found => absurd (silent site draft found) regular.writes

/-- A jump to a constant writes nothing, so it is no regular handler. -/
theorem calledFor_jmpConst : CalledFor "jmp_const" jmpConst? := by
  refine calledFor_of_no_stores fun site draft shape => ?_
  obtain ⟨traffic, -⟩ := Option.ite_none_left_eq_some.mp shape
  exact List.length_eq_zero_iff.mp (traffic_eq.mp (not_not.mp traffic)).1

/-- A jump from the stack writes nothing, so it is no regular handler. -/
theorem calledFor_jmp : CalledFor "jmp" jmp? := by
  refine calledFor_of_no_stores fun site draft shape => ?_
  simp only [jmp?, Option.bind_eq_bind, Option.bind_eq_some_iff] at shape
  obtain ⟨stack, -, shape⟩ := shape
  split at shape
  · assumption
  · assumption
  · cases shape

/-- A write of the stack pointer writes no memory, so it is no regular handler. -/
theorem calledFor_writeVsp : CalledFor "write_vsp" writeVsp? := by
  refine calledFor_of_no_stores fun site draft shape => ?_
  simp only [writeVsp?, Option.bind_eq_bind, Option.bind_eq_some_iff,
    Option.ite_none_left_eq_some] at shape
  obtain ⟨stack, -, traffic, -⟩ := shape
  exact List.length_eq_zero_iff.mp (traffic_eq.mp (not_not.mp traffic)).1

end Site

/-! The battery. -/

namespace Matcher

/-- Whether a matcher accepts a handler. -/
def accepts (matcher : Matcher) (decoder : Decoder) (site : Site) : Bool :=
  (matcher.apply decoder site).isOk

/-- A matcher that accepts regular handlers only if they call for it. -/
def IsCalledFor (matcher : Matcher) : Prop :=
  ∀ decoder site, Site.Regular site → matcher.accepts decoder site = true →
    site.candidate = matcher.name

/-- A matcher accepts only what it has drafted. -/
theorem exists_draft {matcher : Matcher} {decoder : Decoder} {site : Site}
    (accepted : matcher.accepts decoder site = true) :
    ∃ draft, matcher.draft site = .ok draft := by
  rw [accepts, apply] at accepted
  split at accepted
  · cases accepted
  · exact ⟨_, ‹_›⟩

/-- A matcher that only looks for a shape accepts what calls for it if its shape does. -/
theorem isCalledFor_ofShape {name : String} {shape : Site → Option Draft}
    (calledFor : Site.CalledFor name shape) : (ofShape name shape).IsCalledFor := by
  intro decoder site regular accepted
  obtain ⟨draft, drafted⟩ := exists_draft accepted
  refine calledFor site regular draft ?_
  dsimp only [ofShape] at drafted
  split at drafted
  · rename_i found
    exact found.trans (congrArg some (Except.ok.inj drafted))
  · cases drafted

end Matcher

/-- A pop is called for by its single write of a value from the stack, at an address in the save
area. -/
theorem isCalledFor_popReg : popRegMatcher.IsCalledFor := by
  intro decoder site regular accepted
  obtain ⟨draft, drafted⟩ := Matcher.exists_draft accepted
  dsimp only [popRegMatcher] at drafted
  split at drafted
  · cases drafted
  · exact Site.candidate_of_revealedPair? ‹_›

/-- The matchers of the main battery accept a handler that writes memory only if its dataflow
calls for them. -/
theorem isCalledFor_of_mem : ∀ matcher ∈ mainMatchers, matcher.IsCalledFor := by
  intro matcher member
  simp only [mainMatchers, transferMatchers, arithmeticMatchers, controlMatchers,
    List.mem_append, List.mem_cons, List.not_mem_nil, or_false] at member
  rcases member with ((rfl | rfl | rfl | rfl | rfl) | rfl | rfl | rfl | rfl) | rfl | rfl | rfl
  · exact isCalledFor_popReg
  · exact Matcher.isCalledFor_ofShape Site.calledFor_pushReg
  · exact Matcher.isCalledFor_ofShape Site.calledFor_pushImm
  · exact Matcher.isCalledFor_ofShape Site.calledFor_pushVsp
  · exact Matcher.isCalledFor_ofShape Site.calledFor_memAccess
  · exact Matcher.isCalledFor_ofShape Site.calledFor_binary
  · exact Matcher.isCalledFor_ofShape Site.calledFor_doubleShift
  · exact Matcher.isCalledFor_ofShape Site.calledFor_cpuid
  · exact Matcher.isCalledFor_ofShape Site.calledFor_mul
  · exact Matcher.isCalledFor_ofShape Site.calledFor_jmpConst
  · exact Matcher.isCalledFor_ofShape Site.calledFor_jmp
  · exact Matcher.isCalledFor_ofShape Site.calledFor_writeVsp

/-- The matchers of the main battery are told apart by their names. -/
theorem nodup_names : (mainMatchers.map Matcher.name).Nodup := by
  decide

/-- At most one matcher of the main battery accepts a regular handler. -/
theorem accepting_length_le_one {site : Site} (regular : site.Regular) (decoder : Decoder) :
    (mainMatchers.filter (·.accepts decoder site)).length ≤ 1 := by
  have called : ∀ matcher ∈ mainMatchers, matcher.accepts decoder site = true →
      (matcher.name == site.candidate) = true := fun matcher member accepted =>
    beq_iff_eq.mpr (isCalledFor_of_mem matcher member decoder site regular accepted).symm
  calc (mainMatchers.filter (·.accepts decoder site)).length
      = mainMatchers.countP (·.accepts decoder site) := List.countP_eq_length_filter.symm
    _ ≤ mainMatchers.countP (·.name == site.candidate) := List.countP_mono_left called
    _ = (mainMatchers.map Matcher.name).count site.candidate := by
        rw [List.count, List.countP_map]
        rfl
    _ ≤ 1 := List.nodup_iff_count_le_one.mp nodup_names site.candidate

namespace Site

/-- What a handler turns out to be when the given matchers are tried in their order. -/
def verdictAmong (battery : List Matcher) (decoder : Decoder) (site : Site) : Verdict :=
  match battery.findSome? fun matcher => (matcher.apply decoder site).toOption with
  | some pattern => .handler pattern
  | none =>
      if site.isStackGuard then .stackGuard
      else if site.isJunk then .junk
      else .unknown

/-- Tried in the given order, the battery gives the verdict. -/
theorem verdictAmong_matchers (decoder : Decoder) (site : Site) :
    site.verdictAmong matchers decoder = site.verdict decoder :=
  rfl

end Site

/-- What is found first in a list with at most one success does not depend on its order. -/
theorem findSome?_perm {α β : Type} {find : α → Option β} {list order : List α}
    (perm : order.Perm list) (once : (list.filterMap find).length ≤ 1) :
    order.findSome? find = list.findSome? find := by
  rw [← List.head?_filterMap, ← List.head?_filterMap]
  have found := perm.filterMap find
  rcases all : list.filterMap find with _ | ⟨only, _ | ⟨second, rest⟩⟩
  · rw [all] at found
    rw [found.eq_nil]
  · rw [all] at found
    rw [List.perm_singleton.mp found]
  · rw [all] at once
    simp at once

/-- For a handler that writes memory, with a selection that tells the registers apart if there is
one, at most one matcher of the main battery accepts, and the main battery leads to the same
verdict in any order. -/
theorem storeHandlers_matched_once (site : Site) (decoder : Decoder) (writes : site.stores ≠ [])
    (apart : ∀ pair, site.selection.pair? = some pair → pair.Apart) :
    (mainMatchers.filter (·.accepts decoder site)).length ≤ 1 ∧
      ∀ order, order.Perm mainMatchers →
        site.verdictAmong (order ++ fallbackMatchers) decoder = site.verdict decoder := by
  have once := accepting_length_le_one ⟨writes, apart⟩ decoder
  refine ⟨once, fun order perm => ?_⟩
  rw [← Site.verdictAmong_matchers, Site.verdictAmong, Site.verdictAmong, matchers,
    List.findSome?_append, List.findSome?_append]
  rw [findSome?_perm perm]
  rw [List.length_filterMap_eq_countP, List.countP_eq_length_filter]
  refine le_of_eq_of_le ?_ once
  congr 2
  funext matcher
  rw [Matcher.accepts]
  cases matcher.apply decoder site <;> rfl

section Witness

open Simulation

/-- The decoder of the load of a pop. -/
def loadTable : Decoder :=
  Table.decoder
    { instructions := [{
        address := 0x401000
        mnemonic := .mov
        operands := [⟨.register "EAX", 4⟩, ⟨.memory (.based "EBP"), 4⟩] }] }

/-- A pop when the pair that it reveals is selected already. -/
def selectedPop : Site where
  fragment := popHandler 0x401000
  selection := .of revealed

/-- The pop is recognised by one matcher, also when the main battery is tried backwards. -/
theorem selectedPop_matched_once :
    (mainMatchers.filter (·.accepts loadTable selectedPop)).length ≤ 1 ∧
      selectedPop.verdictAmong (mainMatchers.reverse ++ fallbackMatchers) loadTable =
        .handler (.popReg 4 0x401000 revealed) := by
  have apart : ∀ pair, selectedPop.selection.pair? = some pair → pair.Apart := by
    intro pair selected
    obtain rfl := Option.some.inj selected
    exact ⟨by cbv, by cbv, by cbv⟩
  have once := storeHandlers_matched_once selectedPop loadTable (by decide) apart
  refine ⟨once.1, (once.2 mainMatchers.reverse mainMatchers.reverse_perm).trans ?_⟩
  have recognised := pattern?_popHandler 0x401000 loadTable
    (show (Selection.of revealed).admits revealed = true by decide)
  rw [Site.verdict, selectedPop, recognised]
  cbv

end Witness

end Handler

end VmRecovery

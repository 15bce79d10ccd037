import Mathlib
import VmRecovery.Proofs.Handler.Traffic

/-!
# What the selected pair decides

Three answers need no selected pair: the processor identification, the computed jump, and that a
handler has no effect. Their matchers look at the dataflow alone, and the numbers of memory writes
and reads rule out every matcher that is tried before (`verdict_cpuid_iff`, `verdict_jmpConst_iff`).
A pop is tried first and reveals its pair from the dataflow, so a selection can only admit the pair
or refuse it (`verdict_popReg_iff`); the matchers after it make no pops.

`selection_decides` puts the answers under different selections side by side.
-/

namespace VmRecovery

/-- A selected pair admits itself only. -/
theorem Selection.admits_of {selected pair : RegisterPair} :
    (Selection.of selected).admits pair = true ↔ selected = pair :=
  beq_iff_eq

namespace Handler

open Ir Native

/-- The matchers of the main battery, in their order. -/
theorem names_mainMatchers :
    mainMatchers.map Matcher.name =
      ["pop_reg", "push_reg", "push_imm", "push_vsp", "mem_access", "binary", "double_shift",
        "cpuid", "mul", "jmp_const", "jmp", "write_vsp"] :=
  rfl

/-- All matchers are told apart by their names. -/
theorem nodup_matcher_names : (matchers.map Matcher.name).Nodup := by
  decide

namespace Site

variable {site : Site} {decoder : Decoder} {pattern : Pattern}

/-- A pattern comes from the matcher that is named for it. -/
theorem apply_of_verdict (isHandler : site.verdict decoder = .handler pattern)
    (matcher : Matcher) (member : matcher ∈ matchers) (named : pattern.matcher = matcher.name) :
    matcher.apply decoder site = .ok pattern := by
  obtain ⟨found, isMatcher, applied, shows⟩ :=
    shows_of_pattern? (verdict_eq_handler.mp isHandler)
  obtain rfl : found = matcher :=
    List.inj_on_of_nodup_map nodup_matcher_names isMatcher member (shows.named.symm.trans named)
  exact applied

/-- The first matcher that accepts decides. -/
theorem verdict_of_earliest (before after : List Matcher) {matcher : Matcher}
    (split : matchers = before ++ matcher :: after)
    (accepted : matcher.apply decoder site = .ok pattern)
    (declined : ∀ other ∈ before, ∀ found, other.apply decoder site ≠ .ok found) :
    site.verdict decoder = .handler pattern := by
  rw [verdict_eq_handler, pattern?, List.findSome?_eq_some_iff]
  refine ⟨before, matcher, after, split, toOption_eq_some.mpr accepted, ?_⟩
  intro other member
  rw [Option.eq_none_iff_forall_ne_some]
  intro found isFound
  exact declined other member found (toOption_eq_some.mp isFound)

/-- A pattern that one of the first matchers finds has the name and the traffic for it. -/
theorem named_of_mem_take {count : Nat} {matcher : Matcher}
    (member : matcher ∈ mainMatchers.take count)
    (applied : matcher.apply decoder site = .ok pattern) :
    pattern.matcher ∈ (mainMatchers.map Matcher.name).take count ∧
      pattern.Traffic site.stores.length site.loads.length := by
  have shows := shows_of_mem matcher (List.mem_of_mem_take member) decoder site pattern applied
  constructor
  · rw [shows.named, ← List.map_take]
    exact List.mem_map_of_mem member
  · exact shows.traffic

/-! Answers that need no selected pair. -/

/-- The matchers before the processor identification ask for one or two memory writes. -/
theorem stores_of_before_cpuid {matcher : Matcher} (member : matcher ∈ mainMatchers.take 7)
    (applied : matcher.apply decoder site = .ok pattern) : site.stores.length ≤ 2 := by
  obtain ⟨named, traffic⟩ := named_of_mem_take member applied
  rw [names_mainMatchers] at named
  cases pattern with
  | mul _ | cpuid | exit _ => simp [Pattern.matcher, Pattern.name] at named
  | _ => simp only [Pattern.Traffic] at traffic; omega

/-- The matchers before the computed jump ask for memory writes. -/
theorem stores_of_before_jmpConst {matcher : Matcher} (member : matcher ∈ mainMatchers.take 9)
    (applied : matcher.apply decoder site = .ok pattern) : site.stores.length ≠ 0 := by
  obtain ⟨named, traffic⟩ := named_of_mem_take member applied
  rw [names_mainMatchers] at named
  cases pattern with
  | jmpConst | jmp | writeVsp | popfd | exit _ => simp [Pattern.matcher, Pattern.name] at named
  | _ => simp only [Pattern.Traffic] at traffic; omega

/-- A processor query is recognised by its shape alone, whatever pair is selected. -/
theorem verdict_cpuid_iff :
    site.verdict decoder = .handler .cpuid ↔ ∃ draft, site.cpuid? = some draft := by
  constructor
  · intro isHandler
    have applied := apply_of_verdict isHandler (.ofShape "cpuid" cpuid?)
      (by simp [matchers, mainMatchers, arithmeticMatchers]) rfl
    obtain ⟨draft, shape, -⟩ := Matcher.apply_ofShape.mp applied
    exact ⟨draft, shape⟩
  · rintro ⟨draft, shape⟩
    obtain ⟨few, isCpuid⟩ := Option.ite_none_left_eq_some.mp shape
    obtain rfl := Option.some.inj (Option.ite_none_right_eq_some.mp isCpuid).2
    have accepted : (Matcher.ofShape "cpuid" cpuid?).apply decoder site = .ok .cpuid :=
      Matcher.apply_ofShape.mpr ⟨_, shape, rfl⟩
    apply verdict_of_earliest (mainMatchers.take 7) (matchers.drop 8) rfl accepted
    intro other member found applied
    have := stores_of_before_cpuid member applied
    omega

/-- A jump to a constant is recognised by its shape alone, whatever pair is selected. -/
theorem verdict_jmpConst_iff :
    site.verdict decoder = .handler .jmpConst ↔ ∃ draft, site.jmpConst? = some draft := by
  constructor
  · intro isHandler
    have applied := apply_of_verdict isHandler (.ofShape "jmp_const" jmpConst?)
      (by simp [matchers, mainMatchers, controlMatchers]) rfl
    obtain ⟨draft, shape, -⟩ := Matcher.apply_ofShape.mp applied
    exact ⟨draft, shape⟩
  · rintro ⟨draft, shape⟩
    obtain ⟨traffic, isJump⟩ := Option.ite_none_left_eq_some.mp shape
    have accepted : (Matcher.ofShape "jmp_const" jmpConst?).apply decoder site = .ok .jmpConst := by
      refine Matcher.apply_ofShape.mpr ⟨draft, shape, ?_⟩
      split at isJump
      · obtain rfl := Option.some.inj (Option.ite_none_right_eq_some.mp isJump).2
        rfl
      · cases isJump
    apply verdict_of_earliest (mainMatchers.take 9) (matchers.drop 10) rfl accepted
    intro other member found applied
    exact stores_of_before_jmpConst member applied (traffic_eq.mp (not_not.mp traffic)).1

/-! Pops. -/

/-- A pop is recognised by the pair that it reveals, if the selection admits this pair. -/
theorem verdict_popReg_iff {size : UInt8} {address : UInt64} {pair : RegisterPair} :
    site.verdict decoder = .handler (.popReg size address pair) ↔
      ∃ store source, site.revealedPair? = some (pair, store, source) ∧
        site.selection.admits pair = true ∧
          popPattern decoder pair store source = .popReg size address pair := by
  have first : site.verdict decoder = .handler (.popReg size address pair) ↔
      popRegMatcher.apply decoder site = .ok (.popReg size address pair) := by
    constructor
    · intro isHandler
      exact apply_of_verdict isHandler popRegMatcher
        (by simp [matchers, mainMatchers, transferMatchers]) rfl
    · intro accepted
      apply verdict_of_earliest [] (matchers.drop 1) rfl accepted
      simp
  rw [first, apply_popReg]
  constructor
  · rintro ⟨revealed, store, source, reveals, admitted, isPop⟩
    obtain rfl : revealed = pair := (Pattern.popReg.inj isPop).2.2
    exact ⟨store, source, reveals, admitted, isPop⟩
  · rintro ⟨store, source, reveals, admitted, isPop⟩
    exact ⟨pair, store, source, reveals, admitted, isPop⟩

/-- The two registers that a pop reveals are different ones. -/
theorem ne_of_revealedPair? {pair : RegisterPair} {store : Op} {source : Origin}
    (reveals : site.revealedPair? = some (pair, store, source)) : pair.code ≠ pair.stack := by
  obtain ⟨-, -, ⟨code, -, -, different, rfl⟩, -⟩ := revealedPair?_inversion reveals
  exact different

/-- The same dataflow with another selected pair has the same traffic, so it has no effect under
every selection or under none. -/
theorem verdict_of_silent {fragment : Fragment} {selection : Selection} (other : Selection)
    (silent : traffic ⟨fragment, selection⟩ = (0, 0)) :
    verdict decoder ⟨fragment, other⟩ = verdict decoder ⟨fragment, selection⟩ := by
  have silent' : traffic ⟨fragment, other⟩ = (0, 0) := silent
  rw [verdict_of_no_traffic silent, verdict_of_no_traffic silent']

/-- Without a selected pair only four kinds of handlers can be recognised. -/
theorem pattern_of_unselected {fragment : Fragment}
    (isHandler : verdict decoder ⟨fragment, .none⟩ = .handler pattern) :
    (∃ size store pair, pattern = .popReg size store pair) ∨ pattern = .cpuid ∨
      pattern = .jmpConst ∨ ∃ restored, pattern = .exit restored := by
  obtain ⟨matcher, -, -, shows⟩ := shows_of_pattern? (verdict_eq_handler.mp isHandler)
  cases pattern with
  | popReg size store pair => exact .inl ⟨size, store, pair, rfl⟩
  | cpuid => exact .inr (.inl rfl)
  | jmpConst => exact .inr (.inr (.inl rfl))
  | exit restored => exact .inr (.inr (.inr ⟨restored, rfl⟩))
  | _ => exact absurd (shows.selected rfl) Bool.false_ne_true

end Site

/-- How the selected pair takes part in recognising a handler. Without one only a pop, the processor
identification, a computed jump and an exit are recognised. The identification, a computed jump, a
stack guard and junk are the same under every selection and under none. A pop that is recognised
without a selection is the same one when its pair is selected, and no pop at all when another pair
is; a pop that is recognised under a selection has the selected pair, and is the same one without a
selection. The two registers of a pop differ. -/
theorem selection_decides (fragment : Fragment) (decoder : Decoder) :
    (∀ pattern, Site.verdict decoder ⟨fragment, .none⟩ = .handler pattern →
      (∃ size store pair, pattern = .popReg size store pair) ∨ pattern = .cpuid ∨
        pattern = .jmpConst ∨ ∃ restored, pattern = .exit restored) ∧
    (∀ verdict ∈ [Verdict.handler .cpuid, .handler .jmpConst, .stackGuard, .junk],
      ∀ selection other, Site.verdict decoder ⟨fragment, selection⟩ = verdict →
        Site.verdict decoder ⟨fragment, other⟩ = verdict) ∧
    (∀ size store pair,
      Site.verdict decoder ⟨fragment, .none⟩ = .handler (.popReg size store pair) →
        Site.verdict decoder ⟨fragment, .of pair⟩ = .handler (.popReg size store pair) ∧
          ∀ other, other ≠ pair → ∀ size' store' pair',
            Site.verdict decoder ⟨fragment, .of other⟩ ≠ .handler (.popReg size' store' pair')) ∧
    (∀ selected size store pair,
      Site.verdict decoder ⟨fragment, .of selected⟩ = .handler (.popReg size store pair) →
        pair = selected ∧
          Site.verdict decoder ⟨fragment, .none⟩ = .handler (.popReg size store pair)) ∧
    ∀ selection size store pair,
      Site.verdict decoder ⟨fragment, selection⟩ = .handler (.popReg size store pair) →
        pair.code ≠ pair.stack := by
  refine ⟨fun _ => Site.pattern_of_unselected, ?_, ?_, ?_, ?_⟩
  · intro verdict member selection other same
    simp only [List.mem_cons, List.not_mem_nil, or_false] at member
    rcases member with rfl | rfl | rfl | rfl
    · obtain ⟨draft, shape⟩ := Site.verdict_cpuid_iff.mp same
      exact Site.verdict_cpuid_iff.mpr ⟨draft, shape⟩
    · obtain ⟨draft, shape⟩ := Site.verdict_jmpConst_iff.mp same
      exact Site.verdict_jmpConst_iff.mpr ⟨draft, shape⟩
    · rw [Site.verdict_of_silent other (Site.verdict_eq_guard_or_junk.mp (.inl same)), same]
    · rw [Site.verdict_of_silent other (Site.verdict_eq_guard_or_junk.mp (.inr same)), same]
  · intro size address pair isPop
    obtain ⟨store, source, reveals, -, same⟩ := Site.verdict_popReg_iff.mp isPop
    constructor
    · apply Site.verdict_popReg_iff.mpr
      exact ⟨store, source, reveals, Selection.admits_of.mpr rfl, same⟩
    · intro other different size' address' pair' isOther
      obtain ⟨store', source', reveals', admitted, -⟩ := Site.verdict_popReg_iff.mp isOther
      have revealed : some (pair, store, source) = some (pair', store', source') :=
        reveals.symm.trans reveals'
      obtain rfl : pair = pair' := (Prod.mk.inj (Option.some.inj revealed)).1
      exact different (Selection.admits_of.mp admitted)
  · intro selected size address pair isPop
    obtain ⟨store, source, reveals, admitted, same⟩ := Site.verdict_popReg_iff.mp isPop
    constructor
    · exact (Selection.admits_of.mp admitted).symm
    · apply Site.verdict_popReg_iff.mpr
      exact ⟨store, source, reveals, rfl, same⟩
  · intro selection size address pair isPop
    obtain ⟨store, source, reveals, -, -⟩ := Site.verdict_popReg_iff.mp isPop
    exact Site.ne_of_revealedPair? reveals

section Witness

open Simulation

/-- A pop is recognised without a selection, so it is under its own pair and not under another one.
A computed jump is recognised under any pair. -/
theorem pop_under_selections :
    (Site.verdict loadTable ⟨popHandler 0x401000, .of revealed⟩ =
        .handler (.popReg 4 0x401000 revealed) ∧
      Site.verdict loadTable ⟨popHandler 0x401000, .of { code := "EDI", stack := "EBP" }⟩ ≠
        .handler (.popReg 4 0x401000 revealed) ∧
      revealed.code ≠ revealed.stack) ∧
    Site.verdict loadTable ⟨jmpConstHandler 0x402000, .of revealed⟩ = .handler .jmpConst := by
  have unselected : Site.verdict loadTable ⟨popHandler 0x401000, .none⟩ =
      .handler (.popReg 4 0x401000 revealed) := by
    have admitted : Selection.none.admits revealed = true := rfl
    apply Site.verdict_of_pattern?
    rw [pattern?_popHandler 0x401000 loadTable admitted]
    cbv
  have pops := selection_decides (popHandler 0x401000) loadTable
  have jumps := selection_decides (jmpConstHandler 0x402000) loadTable
  constructor
  · have under := pops.2.2.1 4 0x401000 revealed unselected
    constructor
    · exact under.1
    · exact ⟨under.2 { code := "EDI", stack := "EBP" } (by decide) 4 0x401000 revealed,
        pops.2.2.2.2 .none 4 0x401000 revealed unselected⟩
  · exact jumps.2.1 (.handler .jmpConst) (by simp) .none (.of revealed)
      (verdict_jmpConstHandler 0x402000 loadTable)

end Witness

end Handler

end VmRecovery

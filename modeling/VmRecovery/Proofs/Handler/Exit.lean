import Mathlib
import VmRecovery.Proofs.Handler.Selection
import VmRecovery.Proofs.Handler.Slots
import VmRecovery.Proofs.Simulation.Handlers

/-!
# Exits

An exit is recognised by what is bound to registers at the return: values from ten slots of the VM
stack (`Fragment.Restores`).

The matcher is exact about the slots and asks for seven reads (`exit_restores_slots`). It does not
ask for the writes, and the numbers of reads leave few matchers that could have claimed a handler
before (`exit_verdict_iff`), so handlers that write memory are taken for exits as well
(`storing_exit_is_exit`).
-/

namespace VmRecovery

open Native

namespace Handler

open Ir

namespace Site

variable {site : Site} {decoder : Decoder}

/-- An exit is accepted with seven reads and all ten slots restored, and with nothing else asked. -/
theorem apply_exit {pattern : Pattern} :
    (Matcher.ofShape "exit" exit?).apply decoder site = .ok pattern ↔
      7 ≤ site.loads.length ∧
        ∃ restored, site.fragment.Restores restored ∧ pattern = .exit restored := by
  simp only [Matcher.apply_ofShape, exit?, Option.ite_none_left_eq_some, not_lt,
    Option.map_eq_some_iff, Fragment.mapM_restoredFrom?_eq_some_iff]
  constructor
  · rintro ⟨draft, ⟨many, restored, restores, rfl⟩, resolved⟩
    exact ⟨many, restored, restores, (Option.some.inj resolved).symm⟩
  · rintro ⟨many, restored, restores, rfl⟩
    exact ⟨_, ⟨many, restored, restores, rfl⟩, rfl⟩

end Site

/-- The matcher of exits accepts a handler exactly if it reads memory seven times and every one of
ten slots is bound to a register. The pattern then names, slot by slot, the register that is bound
last to a value from the slot, and bindings with other values do not matter. -/
theorem exit_restores_slots (site : Site) (decoder : Decoder) :
    let matcher := Matcher.ofShape "exit" Site.exit?
    ((∃ pattern, matcher.apply decoder site = .ok pattern) ↔
      7 ≤ site.loads.length ∧
        ∀ slot < 10, ∃ binding ∈ site.fragment.returns,
          site.fragment.ReadsSlot binding.2 (.ofNat slot)) ∧
    (∀ pattern, matcher.apply decoder site = .ok pattern →
      ∃ restored, pattern = .exit restored ∧ site.fragment.Restores restored) ∧
    ∀ returns : List (String × ValueId),
      (returns.filter fun binding => site.fragment.IsRestoring binding) =
          (site.fragment.returns.filter fun binding => site.fragment.IsRestoring binding) →
        matcher.apply decoder { site with fragment := site.fragment.rebind returns } =
          matcher.apply decoder site := by
  intro matcher
  refine ⟨?_, ?_, ?_⟩
  · simp only [matcher, Site.apply_exit, ← Fragment.exists_restores_iff]
    constructor
    · rintro ⟨_, many, restored, restores, rfl⟩
      exact ⟨many, restored, restores⟩
    · rintro ⟨many, restored, restores⟩
      exact ⟨_, many, restored, restores, rfl⟩
  · intro pattern accepted
    obtain ⟨-, restored, restores, rfl⟩ := Site.apply_exit.mp accepted
    exact ⟨restored, rfl, restores⟩
  · intro returns same
    have shape : Site.exit? { site with fragment := site.fragment.rebind returns } =
        site.exit? := by
      rw [Site.exit?, Site.exit?, Fragment.mapM_restoredFrom?_rebind same]
      rfl
    simp only [matcher, Matcher.apply, Matcher.ofShape, shape]

section Witness

open Simulation

/-- The registers of the exit handler, by the slots that they are restored from. -/
def exitRegisters : List String :=
  ["EAX", "ECX", "EDX", "EBX", "EBP", "ESI", "EDI", "EFLAGS", "R8", "R9"]

/-- An exit that binds a value from the first slot twice, and a value from no slot. -/
def crowdedExit : Site where
  fragment :=
    (exitHandler 0x402000).rebind
      (("ESP", 4) :: (exitHandler 0x402000).returns ++ [("EIP", 0)])
  selection := .none

/-- The last binding counts, and a value that was read from no slot may be bound or not. -/
theorem crowdedExit_restores :
    let matcher := Matcher.ofShape "exit" Site.exit?
    matcher.apply loadTable crowdedExit = .ok (.exit exitRegisters) ∧
      crowdedExit.fragment.Restores exitRegisters ∧
      matcher.apply loadTable
          { crowdedExit with
            fragment :=
              crowdedExit.fragment.rebind (("ESP", 4) :: (exitHandler 0x402000).returns) } =
        matcher.apply loadTable crowdedExit := by
  intro matcher
  have accepted : matcher.apply loadTable crowdedExit = .ok (.exit exitRegisters) := by cbv
  obtain ⟨-, restores, others⟩ := exit_restores_slots crowdedExit loadTable
  obtain ⟨restored, same, isRestored⟩ := restores _ accepted
  obtain rfl := Pattern.exit.inj same
  exact ⟨accepted, isRestored, others _ (by decide)⟩

end Witness

/-! Which handlers are left for the exit. -/

namespace Site

variable {site : Site} {decoder : Decoder} {draft : Draft}

/-- A push of a virtual register writes once, and its draft always resolves. -/
theorem pushReg?_shape (found : site.pushReg? = some draft) :
    site.stores.length = 1 ∧ ∀ decoder, ∃ pattern, draft.resolve decoder = some pattern := by
  simp only [pushReg?, Option.bind_eq_bind, Option.bind_eq_some_iff,
    Option.ite_none_left_eq_some, Option.ite_none_right_eq_some] at found
  obtain ⟨pair, -, -, store, pushes, slot, -, load, -, -, found⟩ := found
  obtain rfl := Option.some.inj found
  exact ⟨(pushStore?_shape pushes).1, fun _ => ⟨_, rfl⟩⟩

/-- A push of an operand writes once, and its draft always resolves. -/
theorem pushImm?_shape (found : site.pushImm? = some draft) :
    site.stores.length = 1 ∧ ∀ decoder, ∃ pattern, draft.resolve decoder = some pattern := by
  simp only [pushImm?, Option.bind_eq_bind, Option.bind_eq_some_iff,
    Option.ite_none_left_eq_some] at found
  obtain ⟨pair, -, -, store, pushes, load, -, -, found⟩ := found
  obtain rfl := Option.some.inj found
  exact ⟨(pushStore?_shape pushes).1, fun _ => ⟨_, rfl⟩⟩

/-- The draft of a processor query always resolves. -/
theorem cpuid?_shape (found : site.cpuid? = some draft) :
    ∃ pattern, draft.resolve decoder = some pattern := by
  simp only [cpuid?, Option.ite_none_left_eq_some, Option.ite_none_right_eq_some] at found
  obtain ⟨-, -, found⟩ := found
  obtain rfl := Option.some.inj found
  exact ⟨_, rfl⟩

/-- A handler is no processor query if it has less than four writes or stores anything else in one
of them. -/
theorem cpuid?_eq_none_iff :
    site.cpuid? = none ↔
      (4 ≤ site.stores.length → ∃ store ∈ site.stores, site.isIdentification store = false) := by
  unfold cpuid?
  split
  · rename_i few
    simp [Nat.not_le.mpr few]
  · rename_i many
    simp [Nat.not_lt.mp many]

/-- The matcher of the flags accepts whatever has its shape. -/
theorem apply_popfd {pattern : Pattern} :
    (Matcher.ofShape "popfd" popfd?).apply decoder site = .ok pattern ↔
      site.popfd? ≠ none ∧ pattern = .popfd := by
  rw [Matcher.apply_ofShape]
  constructor
  · rintro ⟨draft, found, resolved⟩
    obtain ⟨rfl, -⟩ := popfd?_eq_some found
    exact ⟨by simp [found], (Option.some.inj resolved).symm⟩
  · rintro ⟨found, rfl⟩
    obtain ⟨draft, found⟩ := Option.ne_none_iff_exists'.mp found
    obtain ⟨rfl, -⟩ := popfd?_eq_some found
    exact ⟨_, found, rfl⟩

/-- What a matcher of the main battery finds is named for one of the battery. -/
theorem matcher_mem_names {matcher : Matcher} {pattern : Pattern} (member : matcher ∈ mainMatchers)
    (accepted : matcher.apply decoder site = .ok pattern) :
    pattern.matcher ∈ mainMatchers.map Matcher.name := by
  rw [(shows_of_mem matcher member decoder site pattern accepted).named]
  exact List.mem_map_of_mem member

/-- A handler is an exit if no matcher before accepts it. -/
theorem verdict_exit_iff {restored : List String} :
    site.verdict decoder = .handler (.exit restored) ↔
      (∀ matcher ∈ mainMatchers, ∀ found, matcher.apply decoder site ≠ .ok found) ∧
        site.popfd? = none ∧
        (Matcher.ofShape "exit" exit?).apply decoder site = .ok (.exit restored) := by
  constructor
  · intro isExit
    have applied := apply_of_verdict isExit (.ofShape "exit" exit?)
      (by simp [matchers, fallbackMatchers]) rfl
    have declined : ∀ matcher ∈ mainMatchers, ∀ found, matcher.apply decoder site ≠ .ok found := by
      rcases exists_of_pattern? (verdict_eq_handler.mp isExit) with
        ⟨matcher, member, accepted⟩ | ⟨declined, -⟩
      · have main := matcher_mem_names member accepted
        simp [names_mainMatchers, Pattern.matcher, Pattern.name] at main
      · exact declined
    refine ⟨declined, ?_, applied⟩
    by_contra changesFlags
    have isFlags : site.verdict decoder = .handler .popfd :=
      verdict_of_earliest mainMatchers [.ofShape "exit" exit?] rfl
        (apply_popfd.mpr ⟨changesFlags, rfl⟩) declined
    rw [isExit] at isFlags
    cases isFlags
  · rintro ⟨declined, keepsFlags, accepted⟩
    apply verdict_of_earliest (mainMatchers ++ [.ofShape "popfd" popfd?]) [] rfl accepted
    intro matcher member found applied
    rcases List.mem_append.mp member with isMain | isLast
    · exact declined matcher isMain found applied
    · obtain rfl := List.mem_singleton.mp isLast
      exact (apply_popfd.mp applied).1 keepsFlags

/-- The matcher of a name accepts nothing where the shape of that name is absent. -/
theorem declines_of_absent {name : String} {shape : Site → Option Draft} {matcher : Matcher}
    {pattern : Pattern} (isShape : .ofShape name shape ∈ mainMatchers) (absent : shape site = none)
    (member : matcher ∈ mainMatchers) (named : matcher.name = name) :
    matcher.apply decoder site ≠ .ok pattern := by
  obtain rfl : matcher = .ofShape name shape :=
    List.inj_on_of_nodup_map nodup_matcher_names (List.mem_append_left _ member)
      (List.mem_append_left _ isShape) named
  intro accepted
  obtain ⟨draft, found, -⟩ := Matcher.apply_ofShape.mp accepted
  rw [absent] at found
  cases found

/-- Seven reads are too many for all but three matchers of the main battery. -/
theorem declined_iff (many : 7 ≤ site.loads.length) :
    (∀ matcher ∈ mainMatchers, ∀ found, matcher.apply decoder site ≠ .ok found) ↔
      site.pushReg? = none ∧ site.pushImm? = none ∧ site.cpuid? = none := by
  have registerMember : .ofShape "push_reg" pushReg? ∈ mainMatchers := by
    simp [mainMatchers, transferMatchers]
  have immediateMember : .ofShape "push_imm" pushImm? ∈ mainMatchers := by
    simp [mainMatchers, transferMatchers]
  have identificationMember : .ofShape "cpuid" cpuid? ∈ mainMatchers := by
    simp [mainMatchers, arithmeticMatchers]
  constructor
  · intro declined
    have absent : ∀ name shape, Matcher.ofShape name shape ∈ mainMatchers →
        (∀ draft, shape site = some draft → ∃ pattern, draft.resolve decoder = some pattern) →
        shape site = none := by
      intro name shape member complete
      rw [Option.eq_none_iff_forall_ne_some]
      intro draft found
      obtain ⟨pattern, resolved⟩ := complete draft found
      exact declined _ member pattern (Matcher.apply_ofShape.mpr ⟨draft, found, resolved⟩)
    exact ⟨absent _ _ registerMember fun _ found => (pushReg?_shape found).2 decoder,
      absent _ _ immediateMember fun _ found => (pushImm?_shape found).2 decoder,
      absent _ _ identificationMember fun _ => cpuid?_shape⟩
  · rintro ⟨noRegister, noImmediate, noIdentification⟩ matcher member found accepted
    have shows := shows_of_mem matcher member decoder site found accepted
    have named := shows.named.symm
    have traffic := shows.traffic
    cases found with
    | pushReg size load => exact declines_of_absent registerMember noRegister member named accepted
    | pushImm size load store =>
        exact declines_of_absent immediateMember noImmediate member named accepted
    | cpuid => exact declines_of_absent identificationMember noIdentification member named accepted
    | popfd | exit restored =>
        have main := matcher_mem_names member accepted
        simp [names_mainMatchers, Pattern.matcher, Pattern.name] at main
    | _ =>
        -- All others come with less than seven reads.
        simp only [Pattern.Traffic] at traffic
        omega

/-- Each of the other shapes goes with a number of memory writes. -/
theorem unclaimed_iff :
    (site.pushReg? = none ∧ site.pushImm? = none ∧ site.cpuid? = none) ∧ site.popfd? = none ↔
      (site.stores.length = 0 → site.popfd? = none) ∧
        (site.stores.length = 1 → site.pushReg? = none ∧ site.pushImm? = none) ∧
        (4 ≤ site.stores.length →
          ∃ store ∈ site.stores, site.isIdentification store = false) := by
  rw [← cpuid?_eq_none_iff]
  constructor
  · rintro ⟨⟨noRegister, noImmediate, noIdentification⟩, keepsFlags⟩
    exact ⟨fun _ => keepsFlags, fun _ => ⟨noRegister, noImmediate⟩, noIdentification⟩
  · rintro ⟨keepsFlags, noPush, noIdentification⟩
    refine ⟨⟨?_, ?_, noIdentification⟩, ?_⟩
    · rw [Option.eq_none_iff_forall_ne_some]
      intro draft found
      exact Option.some_ne_none draft (found.symm.trans (noPush (pushReg?_shape found).1).1)
    · rw [Option.eq_none_iff_forall_ne_some]
      intro draft found
      exact Option.some_ne_none draft (found.symm.trans (noPush (pushImm?_shape found).1).2)
    · rw [Option.eq_none_iff_forall_ne_some]
      intro draft found
      obtain ⟨-, stack, load, rest, -, silent, -, -⟩ := popfd?_eq_some found
      exact Option.some_ne_none draft
        (found.symm.trans (keepsFlags (List.length_eq_zero_iff.mpr silent)))

end Site

/-- A handler is taken for an exit exactly if it reads memory seven times, every one of ten slots is
bound to a register, and none of four other matchers accepts it. Which of them can depends on the
number of memory writes: without any it is the one for the flags, with one it is the pushes, with
four or more it is the processor identification. Two or three writes do not matter at all. -/
theorem exit_verdict_iff (site : Site) (decoder : Decoder) (restored : List String) :
    site.verdict decoder = .handler (.exit restored) ↔
      (7 ≤ site.loads.length ∧ site.fragment.Restores restored) ∧
        (site.stores.length = 0 → site.popfd? = none) ∧
        (site.stores.length = 1 → site.pushReg? = none ∧ site.pushImm? = none) ∧
        (4 ≤ site.stores.length →
          ∃ store ∈ site.stores, site.isIdentification store = false) := by
  rw [← Site.unclaimed_iff, Site.verdict_exit_iff, Site.apply_exit]
  constructor
  · rintro ⟨declined, keepsFlags, many, other, restores, isExit⟩
    obtain rfl := Pattern.exit.inj isExit
    exact ⟨⟨many, restores⟩, (Site.declined_iff many).mp declined, keepsFlags⟩
  · rintro ⟨⟨many, restores⟩, unclaimed, keepsFlags⟩
    exact ⟨(Site.declined_iff many).mpr unclaimed, keepsFlags, many, restored, restores, rfl⟩

section Witness

open Simulation

/-- An exit that writes memory as well: the register that it restores first is written through the
stack register. -/
def storingExit : Site where
  fragment :=
    { exitHandler 0x402000 with
      ops := (exitHandler 0x402000).ops.push ⟨0x402000, .store, [0, 4], none⟩ }
  selection := .none

/-- No push can accept the handler, since no pair is selected. -/
theorem storingExit_unclaimed :
    storingExit.stores.length = 1 ∧ storingExit.pushReg? = none ∧ storingExit.pushImm? = none ∧
      storingExit.verdict loadTable = .handler (.exit exitRegisters) := by
  have once : storingExit.stores.length = 1 := by decide
  have noPush : storingExit.pushReg? = none ∧ storingExit.pushImm? = none := ⟨rfl, rfl⟩
  have restores : storingExit.fragment.Restores exitRegisters :=
    Fragment.mapM_restoredFrom?_eq_some_iff.mp (by cbv)
  refine ⟨once, noPush.1, noPush.2, (exit_verdict_iff storingExit loadTable exitRegisters).mpr ?_⟩
  rw [once]
  exact ⟨⟨by decide, restores⟩, by simp, fun _ => noPush, by simp⟩

/-- A handler that writes memory can be taken for an exit. -/
theorem storing_exit_is_exit :
    storingExit.verdict loadTable = .handler (.exit exitRegisters) ∧
      ¬∀ (site : Site) (decoder : Decoder) (restored : List String),
        site.verdict decoder = .handler (.exit restored) → site.stores = [] := by
  have isExit : storingExit.verdict loadTable = .handler (.exit exitRegisters) := by cbv
  refine ⟨isExit, fun silent => ?_⟩
  have none : storingExit.stores = [] := silent storingExit loadTable exitRegisters isExit
  exact absurd (congrArg List.length none) (by decide)

end Witness

end Handler

end VmRecovery

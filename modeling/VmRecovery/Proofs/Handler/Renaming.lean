import VmRecovery.Handler.Verdict
import VmRecovery.Proofs.Ir.Renaming

/-!
# Handlers over other registers

A renaming of registers acts on all that a matcher looks at and on all that it finds. A matcher
sees registers as the origins of values (`inputOrigins_rename`), as pointers
(`pointerRegister?_rename`) and by what is bound to them at the return (`returnOrigins?_rename`).
-/

namespace VmRecovery

open Handler Ir Native

variable {names : Renaming}

/-! Renamed pairs, patterns and drafts. -/

def RegisterPair.rename (names : Renaming) (pair : RegisterPair) : RegisterPair :=
  { code := names pair.code, stack := names pair.stack }

/-- Both registers of a pair have upper-case names. -/
structure RegisterPair.Uppercase (pair : RegisterPair) : Prop where
  code : IsUpperCase pair.code
  stack : IsUpperCase pair.stack

instance (pair : RegisterPair) : Decidable pair.Uppercase :=
  decidable_of_iff (IsUpperCase pair.code ∧ IsUpperCase pair.stack)
    ⟨fun upper => ⟨upper.1, upper.2⟩, fun upper => ⟨upper.code, upper.stack⟩⟩

/-- Renamed pairs are equal exactly if the plain ones are. -/
theorem RegisterPair.rename_beq {pair other : RegisterPair} (upper : pair.Uppercase)
    (upper' : other.Uppercase) :
    (pair.rename names == other.rename names) = (pair == other) := by
  obtain ⟨code, stack⟩ := pair
  obtain ⟨code', stack'⟩ := other
  rw [Bool.eq_iff_iff, beq_iff_eq, beq_iff_eq, rename, rename, RegisterPair.mk.injEq,
    RegisterPair.mk.injEq, names.eq_iff upper.code upper'.code,
    names.eq_iff upper.stack upper'.stack]

def Selection.rename (names : Renaming) (selection : Selection) : Selection :=
  { pair? := selection.pair?.map (RegisterPair.rename names) }

/-- The renamed selection has the renamed stack register. -/
@[simp] theorem Selection.stack?_rename (selection : Selection) :
    (selection.rename names).stack? = selection.stack?.map names := by
  rw [stack?, rename, stack?, Option.map_map, Option.map_map]
  rfl

namespace Handler

/-- The pattern over other registers: only a pop and an exit name registers. -/
def Pattern.rename (names : Renaming) : Pattern → Pattern
  | popReg size store pair => popReg size store (pair.rename names)
  | exit restored => exit (restored.map names)
  | pattern => pattern

def Verdict.rename (names : Renaming) : Verdict → Verdict
  | handler pattern => handler (pattern.rename names)
  | verdict => verdict

def Draft.rename (names : Renaming) : Draft → Draft
  | settled pattern => settled (pattern.rename names)
  | sized place address pattern => sized place address fun size => (pattern size).rename names
  | named definition patternOf load =>
      named definition
        (fun mnemonic => (patternOf mnemonic).map fun pattern size => (pattern size).rename names)
        load

def Refusal.rename (names : Renaming) : Refusal → Refusal
  | conflict derived => conflict (derived.rename names)
  | shape => shape

/-- A renamed draft resolves to the renamed pattern, since the decoder is asked for addresses only.
-/
theorem Draft.resolve_rename (decoder : Decoder) (draft : Draft) :
    (draft.rename names).resolve decoder = (draft.resolve decoder).map (Pattern.rename names) := by
  cases draft with
  | settled pattern => rfl
  | sized place address pattern => rfl
  | named definition patternOf load =>
      rw [rename, resolve, resolve]
      cases decoder.mnemonicAt definition with
      | none => rfl
      | some mnemonic =>
          rw [Option.bind_some, Option.bind_some, Option.map_map, Option.map_map]
          rfl

/-- A draft of patterns that name no registers stays as it is. -/
theorem Draft.rename_named {definition load : UInt64}
    {patternOf : Mnemonic → Option (UInt8 → Pattern)}
    (plain : ∀ mnemonic pattern, patternOf mnemonic = some pattern →
      ∀ size, (pattern size).rename names = pattern size) :
    (named definition patternOf load).rename names = named definition patternOf load := by
  refine congrArg (named definition · load) (funext fun mnemonic => ?_)
  cases isPattern : patternOf mnemonic with
  | none => rfl
  | some pattern => exact congrArg some (funext (plain mnemonic pattern isPattern))

/-! Renamed sites. -/

namespace Site

def rename (names : Renaming) (site : Site) : Site :=
  { fragment := site.fragment.rename names, selection := site.selection.rename names }

/-- All registers that a site names have upper-case names. -/
structure Uppercase (site : Site) : Prop where
  fragment : site.fragment.Uppercase
  pair : ∀ pair ∈ site.selection.pair?, pair.Uppercase

instance (site : Site) : Decidable site.Uppercase :=
  decidable_of_iff (site.fragment.Uppercase ∧ ∀ pair ∈ site.selection.pair?, pair.Uppercase)
    ⟨fun upper => ⟨upper.1, upper.2⟩, fun upper => ⟨upper.fragment, upper.pair⟩⟩

variable {site : Site}

/-- The handler has the same memory traffic. -/
@[simp] theorem traffic_rename : (site.rename names).traffic = site.traffic :=
  rfl

/-- The handler has the same writes. -/
@[simp] theorem stores_rename : (site.rename names).stores = site.stores :=
  rfl

/-- The handler has the same reads. -/
@[simp] theorem loads_rename : (site.rename names).loads = site.loads :=
  rfl

/-- The renamed pair is selected. -/
@[simp] theorem pair?_rename :
    (site.rename names).selection.pair? =
      site.selection.pair?.map (RegisterPair.rename names) :=
  rfl

/-- The renamed stack register is selected. -/
@[simp] theorem stack?_rename :
    (site.rename names).selection.stack? = site.selection.stack?.map names :=
  site.selection.stack?_rename

/-- A written value is defined by the same operation. -/
@[simp] theorem sourceDefinition?_rename (store : Op) :
    (site.rename names).sourceDefinition? store = site.sourceDefinition? store := by
  rw [sourceDefinition?, sourceDefinition?, rename, Fragment.definingOp?_rename]

/-- An access goes through the renamed register. -/
@[simp] theorem pointerRegister?_rename (load : Op) :
    (site.rename names).pointerRegister? load = (site.pointerRegister? load).map names := by
  rw [pointerRegister?, pointerRegister?, Option.map_bind]
  exact congrArg _ (funext fun _ => Fragment.registerOf?_rename _)

/-- The selected stack register of a handler with upper-case names has one. -/
theorem Uppercase.stack? (upper : site.Uppercase) {stack : String}
    (selected : site.selection.stack? = some stack) : IsUpperCase stack := by
  obtain ⟨pair, isPair, rfl⟩ := Option.map_eq_some_iff.mp selected
  exact (upper.pair pair isPair).stack

/-- A handler with upper-case names reads through registers with upper-case names. -/
theorem Uppercase.pointerRegister? (upper : site.Uppercase) {load : Op} {name : String}
    (through : site.pointerRegister? load = some name) : IsUpperCase name := by
  obtain ⟨pointer, -, lives⟩ := Option.bind_eq_some_iff.mp through
  exact upper.fragment.registerOf? lives

/-- The inputs of an operation come from the renamed origins. -/
theorem inputOrigins_rename (upper : site.Uppercase) (op : Op) (place : Nat) :
    (site.rename names).inputOrigins op place =
      (site.inputOrigins op place).map (Origin.rename names) := by
  rw [inputOrigins, inputOrigins]
  split
  · exact Fragment.origins_rename upper.fragment _
  · rfl

/-- The address of a write comes from the renamed origins. -/
theorem targetOrigins_rename (upper : site.Uppercase) (store : Op) :
    (site.rename names).targetOrigins store =
      (site.targetOrigins store).map (Origin.rename names) :=
  inputOrigins_rename upper store 0

/-- The value of a write comes from the renamed origins. -/
theorem sourceOrigins_rename (upper : site.Uppercase) (store : Op) :
    (site.rename names).sourceOrigins store =
      (site.sourceOrigins store).map (Origin.rename names) :=
  inputOrigins_rename upper store 1

/-- What the renamed register holds at the return comes from the renamed origins. -/
theorem returnOrigins?_rename (upper : site.Uppercase) {register : String}
    (upper' : IsUpperCase register) :
    (site.rename names).returnOrigins? (names register) =
      (site.returnOrigins? register).map (List.map (Origin.rename names)) := by
  rw [returnOrigins?, returnOrigins?, Option.map_map]
  have same := @Fragment.returnBinding?_rename _ names upper.fragment _ upper'
  rw [rename, same]
  exact congrArg (Option.map · _) (funext fun _ => Fragment.origins_rename upper.fragment _)

/-- The inputs of an operation come from upper-case registers. -/
theorem Uppercase.inputOrigins (upper : site.Uppercase) {op : Op} {place : Nat} :
    ∀ origin ∈ site.inputOrigins op place, IsUpperCase origin.name := by
  unfold Site.inputOrigins
  split
  · exact upper.fragment.origins
  · exact List.forall_mem_nil _

/-- The address of a write comes from upper-case registers. -/
theorem Uppercase.targetOrigins (upper : site.Uppercase) (store : Op) :
    ∀ origin ∈ site.targetOrigins store, IsUpperCase origin.name :=
  upper.inputOrigins

/-- The value of a write comes from upper-case registers. -/
theorem Uppercase.sourceOrigins (upper : site.Uppercase) (store : Op) :
    ∀ origin ∈ site.sourceOrigins store, IsUpperCase origin.name :=
  upper.inputOrigins

/-- What a register holds at the return comes from upper-case registers. -/
theorem Uppercase.returnOrigins? (upper : site.Uppercase) {register : String}
    {origins : List Origin} (bound : site.returnOrigins? register = some origins) :
    ∀ origin ∈ origins, IsUpperCase origin.name := by
  obtain ⟨value, -, rfl⟩ := Option.map_eq_some_iff.mp bound
  exact upper.fragment.origins

end Site

end Handler

end VmRecovery

import Mathlib
import VmRecovery.Handler.Arithmetic
import VmRecovery.Proofs.Ir.Acyclic

/-!
# The meaning of a result by recursion

The meaning of an arithmetic result is found behind the operations that only change its width. The
program keeps the operations that it still has to look at in a list and goes on until one decides
or none is left; `Searches` is a run of that loop, with its length. Nothing keeps it from looking at
an operation twice, so it may go on forever where definitions are cyclic. If it ends, though, then
it ends within the bound of the program (`Searches.le_pathBound`): an operation met on the way has a
shorter search of its own, so no path comes back to an operation.

Where no value depends on itself the loop always ends, and `meaning_by_recursion` says what it
comes to: to what a recursion over the definitions finds (`plainMeaning`), which is nothing exactly
if no operation behind the wrappers decides.
-/

namespace VmRecovery.Ir.Fragment

open Handler

variable {fragment : Fragment} {op inner : Op} {front rest pending : List Op}
  {steps steps' : Nat} {result result' : Option BinaryOp} {meaning : BinaryOp}

/-! Runs of the loop. -/

/-- The search that starts with the operations at hand ends after so many of them, with or without
a meaning. -/
inductive Searches (fragment : Fragment) : Nat → List Op → Option BinaryOp → Prop where
  | exhausted : Searches fragment 0 [] none
  | decided {op : Op} {rest : List Op} {meaning : BinaryOp}
      (decides : (fragment.clue op).meaning = some meaning) :
      Searches fragment 1 (op :: rest) (some meaning)
  | further {op : Op} {rest : List Op} {steps : Nat} {result : Option BinaryOp}
      (undecided : (fragment.clue op).meaning = none)
      (later : Searches fragment steps ((fragment.clue op).behind ++ rest) result) :
      Searches fragment (steps + 1) (op :: rest) result

/-- A search has one length and one result. -/
theorem Searches.unique (first : fragment.Searches steps pending result)
    (second : fragment.Searches steps' pending result') : steps = steps' ∧ result = result' := by
  induction first generalizing steps' result' with
  | exhausted =>
      cases second
      exact ⟨rfl, rfl⟩
  | decided decides =>
      cases second with
      | decided decides' => exact ⟨rfl, decides.symm.trans decides'⟩
      | further undecided _ => simp [decides] at undecided
  | further undecided _ inductionHypothesis =>
      cases second with
      | decided decides => simp [decides] at undecided
      | further _ later =>
          obtain ⟨rfl, rfl⟩ := inductionHypothesis later
          exact ⟨rfl, rfl⟩

/-- A search looks at the rest only after it has found nothing before. -/
theorem Searches.split (search : fragment.Searches steps (front ++ rest) result) :
    (fragment.Searches steps front result ∧ result.isSome = true) ∨
      ∃ before after, steps = before + after ∧ fragment.Searches before front none ∧
        fragment.Searches after rest result := by
  generalize all : front ++ rest = pending at search
  induction search generalizing front with
  | exhausted =>
      obtain ⟨rfl, rfl⟩ := List.append_eq_nil_iff.mp all
      exact .inr ⟨0, 0, rfl, .exhausted, .exhausted⟩
  | @decided op others meaning decides =>
      cases front with
      | nil =>
          rw [List.nil_append] at all
          subst all
          exact .inr ⟨0, 1, rfl, .exhausted, .decided decides⟩
      | cons first front =>
          obtain ⟨rfl, -⟩ := List.cons.inj all
          exact .inl ⟨.decided decides, rfl⟩
  | @further op others steps result undecided later inductionHypothesis =>
      cases front with
      | nil =>
          rw [List.nil_append] at all
          subst all
          exact .inr ⟨0, steps + 1, (Nat.zero_add _).symm, .exhausted, .further undecided later⟩
      | cons first front =>
          obtain ⟨rfl, rfl⟩ := List.cons.inj all
          rcases inductionHypothesis (List.append_assoc _ _ _) with
            ⟨found, decided⟩ | ⟨before, after, rfl, nothing, found⟩
          · exact .inl ⟨.further undecided found, decided⟩
          · exact .inr ⟨before + 1, after, by omega, .further undecided nothing, found⟩

/-- The loop of the program finds what a search finds that ends within its bound. -/
theorem Searches.meaningWithin_eq (search : fragment.Searches steps pending result) {budget : Nat}
    (enough : steps ≤ budget) : fragment.meaningWithin budget pending = result := by
  induction search generalizing budget with
  | exhausted => cases budget <;> rfl
  | decided decides =>
      obtain ⟨budget, rfl⟩ := Nat.exists_eq_add_of_le' enough
      rw [meaningWithin, decides]
  | further undecided _ inductionHypothesis =>
      obtain ⟨budget, rfl⟩ := Nat.exists_eq_add_of_le' (Nat.one_le_of_lt enough)
      rw [meaningWithin, undecided]
      exact inductionHypothesis (Nat.le_of_succ_le_succ enough)

/-- What the loop of the program finds is found by a search. -/
theorem exists_searches_of_meaningWithin {budget : Nat}
    (found : fragment.meaningWithin budget pending = some meaning) :
    ∃ steps, fragment.Searches steps pending (some meaning) := by
  induction budget generalizing pending with
  | zero => cases found
  | succ budget inductionHypothesis =>
      cases pending with
      | nil => cases found
      | cons op rest =>
          rw [meaningWithin] at found
          split at found
          · rename_i decides
            obtain rfl := Option.some.inj found
            exact ⟨1, .decided decides⟩
          · rename_i undecided
            obtain ⟨steps, later⟩ := inductionHypothesis found
            exact ⟨steps + 1, .further undecided later⟩

/-! Wrappers and deciding shapes. -/

/-- An extension, a truncation or a mask only changes the width of its first input. -/
def isResize (fragment : Fragment) (op : Op) : Bool :=
  op.code == .intZext || op.code == .subPiece ||
    (op.code == .intAnd && fragment.inputIsConstant op 1)

/-- A wrapper around an operation: the operation defines the first input of a resizing one, or any
input of a concatenation. -/
def Wraps (fragment : Fragment) (op inner : Op) : Prop :=
  (fragment.isResize op = true ∧ fragment.inputDefinition? op 0 = some inner) ∨
    (op.code = .piece ∧ ∃ input ∈ op.inputs, fragment.definingOp? input = some inner)

/-- The operations that give a result its meaning. -/
inductive Decides (fragment : Fragment) (op : Op) : BinaryOp → Prop where
  | shl (code : op.code = .intLeft) (value : fragment.inputIs op 0 .load = true) :
      Decides fragment op .shl
  | shr (code : op.code = .intRight) (value : fragment.inputIs op 0 .load = true) :
      Decides fragment op .shr
  | add (code : op.code = .intAdd) (left : fragment.inputIs op 0 .load = true)
      (right : fragment.inputIs op 1 .load = true) : Decides fragment op .add
  | nor (code : op.code = .intAnd) (unmasked : fragment.inputIsConstant op 1 = false)
      (left : fragment.inputIs op 0 .intNegate = true)
      (right : fragment.inputIs op 1 .intNegate = true) : Decides fragment op .nor
  | nand (code : op.code = .intOr) (left : fragment.inputIs op 0 .intNegate = true)
      (right : fragment.inputIs op 1 .intNegate = true) : Decides fragment op .nand

/-- A clue that decides on a condition has a meaning exactly if the condition holds. -/
theorem meaning_decided {condition : Bool} {other : BinaryOp} :
    (Clue.decided condition other).meaning = some meaning ↔ condition = true ∧ other = meaning := by
  cases condition <;> simp [Clue.decided]

/-- The clue of an operation has a meaning exactly if the operation decides for it. -/
theorem meaning_clue : (fragment.clue op).meaning = some meaning ↔ fragment.Decides op meaning := by
  constructor
  · intro decides
    unfold clue at decides
    split at decides
    · cases decides
    · cases decides
    · cases decides
    · obtain ⟨value, rfl⟩ := meaning_decided.mp decides
      exact .shl ‹_› value
    · obtain ⟨value, rfl⟩ := meaning_decided.mp decides
      exact .shr ‹_› value
    · obtain ⟨values, rfl⟩ := meaning_decided.mp decides
      obtain ⟨left, right⟩ := Bool.and_eq_true_iff.mp values
      exact .add ‹_› left right
    · split at decides
      · cases decides
      · rename_i code unmasked
        obtain ⟨values, rfl⟩ := meaning_decided.mp decides
        obtain ⟨left, right⟩ := Bool.and_eq_true_iff.mp values
        exact .nor code (Bool.eq_false_iff.mpr unmasked) left right
    · obtain ⟨values, rfl⟩ := meaning_decided.mp decides
      obtain ⟨left, right⟩ := Bool.and_eq_true_iff.mp values
      exact .nand ‹_› left right
    · cases decides
  · intro decides
    cases decides with
    | shl code value => simp [clue, code, meaning_decided, value]
    | shr code value => simp [clue, code, meaning_decided, value]
    | add code left right => simp [clue, code, meaning_decided, left, right]
    | nor code unmasked left right => simp [clue, code, meaning_decided, unmasked, left, right]
    | nand code left right => simp [clue, code, meaning_decided, left, right]

/-- A resizing operation is searched behind its first input. -/
theorem clue_of_resize (resizes : fragment.isResize op = true) :
    fragment.clue op = .further (fragment.inputDefinition? op 0).toList := by
  simp only [isResize, Bool.or_eq_true, Bool.and_eq_true, beq_iff_eq] at resizes
  unfold clue
  rcases resizes with (code | code) | ⟨code, masked⟩
  · rw [code]
  · rw [code]
  · simp [code, masked]

/-- A concatenation is searched behind its last input first. -/
theorem clue_of_piece (code : op.code = .piece) :
    fragment.clue op = .further (op.inputs.filterMap fragment.definingOp?).reverse := by
  unfold clue
  rw [code]

/-- No other operation is searched behind. -/
theorem behind_of_plain (keeps : fragment.isResize op = false) (single : op.code ≠ .piece) :
    (fragment.clue op).behind = [] := by
  simp only [isResize, Bool.or_eq_false_iff, Bool.and_eq_false_iff, beq_eq_false_iff_ne] at keeps
  unfold clue
  split
  · exact absurd ‹_› keeps.1.1
  · exact absurd ‹_› keeps.1.2
  · exact absurd ‹_› single
  · rfl
  · rfl
  · rfl
  · split
    · rename_i code masked
      simp [code, masked] at keeps
    · rfl
  · rfl
  · rfl

/-- The clue of an operation leads behind it exactly to what the operation wraps. -/
theorem mem_behind : inner ∈ (fragment.clue op).behind ↔ fragment.Wraps op inner := by
  by_cases resizes : fragment.isResize op = true
  · have single : op.code ≠ .piece := by
      intro code
      simp [isResize, code] at resizes
    simp [Wraps, clue_of_resize resizes, Clue.further, resizes, single]
  · by_cases code : op.code = .piece
    · simp [Wraps, clue_of_piece code, Clue.further, resizes, code]
    · rw [behind_of_plain (Bool.eq_false_iff.mpr resizes) code]
      simp [Wraps, resizes, code]

/-- An operation leads to at most as many others as it has inputs. -/
theorem length_behind_le : (fragment.clue op).behind.length ≤ op.inputs.length := by
  by_cases resizes : fragment.isResize op = true
  · rw [clue_of_resize resizes]
    cases inputs : op.inputs with
    | nil => simp [Clue.further, inputDefinition?, inputs]
    | cons first others =>
        cases defined : fragment.inputDefinition? op 0 <;> simp [Clue.further]
  · by_cases code : op.code = .piece
    · rw [clue_of_piece code, Clue.further, List.length_reverse]
      exact List.length_filterMap_le _ _
    · rw [behind_of_plain (Bool.eq_false_iff.mpr resizes) code]
      exact Nat.zero_le _

/-- What a wrapper leads to is an operation of the fragment. -/
theorem Wraps.mem_ops (wraps : fragment.Wraps op inner) : inner ∈ fragment.ops := by
  rcases wraps with ⟨-, first⟩ | ⟨-, input, -, defined⟩
  · obtain ⟨input, -, defined⟩ := Option.bind_eq_some_iff.mp first
    exact mem_ops_of_definingOp? defined
  · exact mem_ops_of_definingOp? defined

/-- The maximum that is gathered is no less than its start and any operation's number of inputs. -/
theorem le_foldl_arity (ops : List Op) (arity : Nat) :
    arity ≤ ops.foldl (fun arity op => max arity op.inputs.length) arity ∧
      ∀ op ∈ ops,
        op.inputs.length ≤ ops.foldl (fun arity op => max arity op.inputs.length) arity := by
  induction ops generalizing arity with
  | nil => simp
  | cons first ops inductionHypothesis =>
      obtain ⟨start, others⟩ := inductionHypothesis (max arity first.inputs.length)
      rw [List.foldl_cons]
      constructor
      · omega
      · intro op member
        rcases List.mem_cons.mp member with rfl | later
        · omega
        · exact others op later

/-- No operation of a fragment has more inputs than the fragment's largest number. -/
theorem length_inputs_le (member : op ∈ fragment.ops) : op.inputs.length ≤ fragment.maxArity := by
  rw [maxArity, ← Array.foldl_toList]
  exact (le_foldl_arity fragment.ops.toList 0).2 op (Array.mem_toList_iff.mpr member)

/-! The length of a search. -/

/-- The operations whose own search is shorter. -/
noncomputable def sooner (fragment : Fragment) (steps : Nat) : Finset Op := by
  classical
  exact fragment.ops.toList.toFinset.filter fun op =>
    ∃ less result, less < steps ∧ fragment.Searches less [op] result

/-- The sooner operations are those of the fragment whose own search is shorter. -/
theorem mem_sooner :
    op ∈ fragment.sooner steps ↔
      op ∈ fragment.ops ∧ ∃ less result, less < steps ∧ fragment.Searches less [op] result := by
  simp [sooner]

/-- There are no more sooner operations than operations. -/
theorem card_sooner_le : (fragment.sooner steps).card ≤ fragment.ops.size := by
  classical
  calc (fragment.sooner steps).card
      ≤ fragment.ops.toList.toFinset.card := Finset.card_le_card fun op member => by
        simpa using (mem_sooner.mp member).1
    _ ≤ fragment.ops.toList.length := List.toFinset_card_le _
    _ = fragment.ops.size := Array.length_toList

/-- An operation with a shorter search counts from then on. -/
theorem card_sooner_lt (member : op ∈ fragment.ops) (search : fragment.Searches steps [op] result)
    (shorter : steps < steps') : (fragment.sooner steps).card < (fragment.sooner steps').card := by
  apply Finset.card_lt_card
  constructor
  · intro other isSooner
    obtain ⟨known, less, found, earlier, own⟩ := mem_sooner.mp isSooner
    exact mem_sooner.mpr ⟨known, less, found, earlier.trans shorter, own⟩
  · intro all
    obtain ⟨-, less, found, earlier, own⟩ :=
      mem_sooner.mp (all (mem_sooner.mpr ⟨member, steps, result, shorter, search⟩))
    exact Nat.ne_of_lt earlier (own.unique search).1

/-- A search is no longer than the searches of the operations at hand together. -/
theorem Searches.le_length_mul {bound : Nat} (search : fragment.Searches steps pending result)
    (each : ∀ op ∈ pending, ∀ less found, less ≤ steps → fragment.Searches less [op] found →
      less ≤ bound) : steps ≤ pending.length * bound := by
  induction pending generalizing steps result with
  | nil =>
      cases search
      exact Nat.zero_le _
  | cons op rest inductionHypothesis =>
      rw [List.length_cons, Nat.succ_mul]
      rw [← List.singleton_append] at search
      rcases search.split with ⟨found, -⟩ | ⟨before, after, rfl, nothing, later⟩
      · have := each op List.mem_cons_self steps result le_rfl found
        omega
      · have first := each op List.mem_cons_self before none (by omega) nothing
        have others := inductionHypothesis later fun other member less found shorter =>
          each other (List.mem_cons_of_mem _ member) less found (by omega)
        omega

/-- An operation met on the way is among those with a shorter search, and its own search has fewer
of them. So the length is bounded as for a tree of that height. -/
theorem Searches.le_pow (search : fragment.Searches steps [op] result)
    (known : op ∈ fragment.ops) :
    steps ≤ (fragment.maxArity + 1) ^ ((fragment.sooner steps).card + 1) := by
  -- What lies behind an operation has shorter searches, and of those it has one less.
  induction steps using Nat.strong_induction_on generalizing op result with
  | _ steps inductionHypothesis =>
    cases search with
    | decided decides => exact Nat.one_le_pow _ _ (Nat.succ_pos _)
    | @further _ _ steps _ undecided later =>
        rw [List.append_nil] at later
        have each : ∀ inner ∈ (fragment.clue op).behind, ∀ less found, less ≤ steps →
            fragment.Searches less [inner] found →
              less ≤ (fragment.maxArity + 1) ^ (fragment.sooner (steps + 1)).card := by
          intro inner member less found shorter own
          have inside := (mem_behind.mp member).mem_ops
          have lower := card_sooner_lt inside own (Nat.lt_succ_of_le shorter)
          calc less
              ≤ (fragment.maxArity + 1) ^ ((fragment.sooner less).card + 1) :=
                inductionHypothesis less (Nat.lt_succ_of_le shorter) own inside
            _ ≤ (fragment.maxArity + 1) ^ (fragment.sooner (steps + 1)).card :=
                Nat.pow_le_pow_right (Nat.succ_pos _) lower
        have width : (fragment.clue op).behind.length ≤ fragment.maxArity :=
          length_behind_le.trans (length_inputs_le known)
        have positive : 1 ≤ (fragment.maxArity + 1) ^ (fragment.sooner (steps + 1)).card :=
          Nat.one_le_pow _ _ (Nat.succ_pos _)
        calc steps + 1
            ≤ (fragment.clue op).behind.length *
                (fragment.maxArity + 1) ^ (fragment.sooner (steps + 1)).card + 1 :=
              Nat.succ_le_succ (later.le_length_mul each)
          _ ≤ fragment.maxArity * (fragment.maxArity + 1) ^ (fragment.sooner (steps + 1)).card +
                (fragment.maxArity + 1) ^ (fragment.sooner (steps + 1)).card :=
              Nat.add_le_add (Nat.mul_le_mul_right _ width) positive
          _ = (fragment.maxArity + 1) ^ ((fragment.sooner (steps + 1)).card + 1) := by
              rw [pow_succ, Nat.mul_succ, Nat.mul_comm]

/-- A search that ends does so within the bound of the program, also where definitions are
cyclic. -/
theorem Searches.le_pathBound (search : fragment.Searches steps [op] result)
    (known : op ∈ fragment.ops) : steps ≤ fragment.pathBound :=
  (search.le_pow known).trans
    (Nat.pow_le_pow_right (Nat.succ_pos _) (Nat.succ_le_succ card_sooner_le))

/-- What a search for an operation of the fragment ends with is what the program finds. -/
theorem meaning?_of_searches (known : op ∈ fragment.ops)
    (search : fragment.Searches steps [op] result) : fragment.meaning? op = result :=
  search.meaningWithin_eq (search.le_pathBound known)

/-- The meaning is the one that a search finds, however long it takes. -/
theorem meaning?_eq_some_iff (known : op ∈ fragment.ops) :
    fragment.meaning? op = some meaning ↔
      ∃ steps, fragment.Searches steps [op] (some meaning) := by
  constructor
  · exact exists_searches_of_meaningWithin
  · rintro ⟨steps, search⟩
    exact meaning?_of_searches known search

/-! The recursion. -/

/-- An operation that defines an input of another one. -/
def Behind (fragment : Fragment) (inner op : Op) : Prop :=
  ∃ input ∈ op.inputs, fragment.definingOp? input = some inner

/-- In an acyclic fragment going behind operations comes to an end. -/
theorem Acyclic.behind_wellFounded (acyclic : fragment.Acyclic) : WellFounded fragment.Behind := by
  have defined : ∀ value op, fragment.definingOp? value = some op → Acc fragment.Behind op := by
    intro value
    induction value using acyclic.wellFounded.induction with
    | _ value inductionHypothesis =>
      intro op isOp
      constructor
      rintro inner ⟨input, member, isInner⟩
      exact inductionHypothesis input ⟨op, isOp, member⟩ inner isInner
  constructor
  intro op
  constructor
  rintro inner ⟨input, -, isInner⟩
  exact defined input inner isInner

/-- The definition of any input is an operation behind. -/
theorem behind_of_inputDefinition? {place : Nat}
    (defined : fragment.inputDefinition? op place = some inner) : fragment.Behind inner op := by
  obtain ⟨input, found, isInner⟩ := Option.bind_eq_some_iff.mp defined
  exact ⟨input, List.mem_of_getElem? found, isInner⟩

/-- The meaning of a result by recursion over the definitions. Behind an extension, a truncation or
a mask it is the meaning of the first input, and behind a concatenation that of the last input that
has one. Shifts need a loaded first input, a sum two loaded inputs, and a conjunction or a
disjunction two negated ones. -/
def plainMeaning (fragment : Fragment) (acyclic : fragment.Acyclic) (op : Op) : Option BinaryOp :=
  match op.code with
  | .intZext =>
      (fragment.inputDefinition? op 0).attach.bind fun inner =>
        fragment.plainMeaning acyclic inner.1
  | .subPiece =>
      (fragment.inputDefinition? op 0).attach.bind fun inner =>
        fragment.plainMeaning acyclic inner.1
  | .piece =>
      op.inputs.reverse.attach.findSome? fun input =>
        (fragment.definingOp? input.1).attach.bind fun inner =>
          fragment.plainMeaning acyclic inner.1
  | .intLeft => if fragment.inputIs op 0 .load then some .shl else none
  | .intRight => if fragment.inputIs op 0 .load then some .shr else none
  | .intAdd =>
      if fragment.inputIs op 0 .load && fragment.inputIs op 1 .load then some .add else none
  | .intAnd =>
      if fragment.inputIsConstant op 1 then
        (fragment.inputDefinition? op 0).attach.bind fun inner =>
          fragment.plainMeaning acyclic inner.1
      else if fragment.inputIs op 0 .intNegate && fragment.inputIs op 1 .intNegate then some .nor
      else none
  | .intOr =>
      if fragment.inputIs op 0 .intNegate && fragment.inputIs op 1 .intNegate then some .nand
      else none
  | _ => none
termination_by acyclic.behind_wellFounded.wrap op
decreasing_by
  · exact behind_of_inputDefinition? inner.2
  · exact behind_of_inputDefinition? inner.2
  · exact ⟨input.1, List.mem_reverse.mp input.2, inner.2⟩
  · exact behind_of_inputDefinition? inner.2

section Recursion

variable {acyclic : fragment.Acyclic}

/-- Searching among the definitions of items is searching the items for one whose definition serves.
-/
theorem findSome?_filterMap {α β γ : Type} (define : α → Option β) (search : β → Option γ)
    (list : List α) :
    (list.filterMap define).findSome? search =
      list.findSome? fun item => (define item).bind search := by
  induction list with
  | nil => rfl
  | cons item list inductionHypothesis =>
      cases defined : define item with
      | none => simp [defined, inductionHypothesis]
      | some found => simp [defined, List.findSome?_cons, inductionHypothesis]

/-- The recursion goes on behind an operation in the order of the loop, unless the operation
decides. -/
theorem plainMeaning_eq (op : Op) :
    fragment.plainMeaning acyclic op =
      (fragment.clue op).meaning.or
        ((fragment.clue op).behind.findSome? (fragment.plainMeaning acyclic)) := by
  have first : (fragment.inputDefinition? op 0).attach.bind
        (fun inner => fragment.plainMeaning acyclic inner.1) =
      (fragment.inputDefinition? op 0).toList.findSome? (fragment.plainMeaning acyclic) := by
    cases fragment.inputDefinition? op 0 <;> simp
  have last : (op.inputs.reverse.attach.findSome? fun input =>
        (fragment.definingOp? input.1).attach.bind fun inner =>
          fragment.plainMeaning acyclic inner.1) =
      (op.inputs.filterMap fragment.definingOp?).reverse.findSome?
        (fragment.plainMeaning acyclic) := by
    rw [← List.filterMap_reverse, findSome?_filterMap]
    conv_rhs => rw [← List.attach_map_subtype_val op.inputs.reverse]
    rw [List.findSome?_map]
    congr 1
    funext input
    simp
  rw [plainMeaning, first, last]
  unfold clue
  cases op.code with
  | intAnd =>
      by_cases masked : fragment.inputIsConstant op 1 = true
      · simp [masked, Clue.further]
      · simp [masked, Clue.decided]
  | _ => simp [Clue.further, Clue.decided]

/-- A search that ends without a meaning goes on with what is at hand behind it. -/
theorem Searches.append (first : fragment.Searches steps front none)
    (second : fragment.Searches steps' rest result) :
    fragment.Searches (steps + steps') (front ++ rest) result := by
  generalize nothing : none = found at first
  induction first with
  | exhausted => simpa using second
  | decided _ => cases nothing
  | further undecided _ inductionHypothesis =>
      rw [Nat.add_right_comm, List.cons_append]
      apply Searches.further undecided
      rw [← List.append_assoc]
      exact inductionHypothesis nothing

/-- A search that finds a meaning does not look at what is at hand behind it. -/
theorem Searches.append_of_found (first : fragment.Searches steps front (some meaning)) :
    fragment.Searches steps (front ++ rest) (some meaning) := by
  generalize found : some meaning = result at first ⊢
  induction first with
  | exhausted => cases found
  | decided decides => exact .decided decides
  | further undecided _ inductionHypothesis =>
      rw [List.cons_append]
      apply Searches.further undecided
      rw [← List.append_assoc]
      exact inductionHypothesis found

/-- Operations that are searched one after the other. -/
theorem exists_searches_of_each {search : Op → Option BinaryOp}
    (each : ∀ op ∈ pending, ∃ steps, fragment.Searches steps [op] (search op)) :
    ∃ steps, fragment.Searches steps pending (pending.findSome? search) := by
  induction pending with
  | nil => exact ⟨0, .exhausted⟩
  | cons op rest inductionHypothesis =>
      obtain ⟨steps, first⟩ := each op List.mem_cons_self
      rw [List.findSome?_cons]
      cases found : search op with
      | some meaning =>
          rw [found] at first
          exact ⟨steps, first.append_of_found⟩
      | none =>
          rw [found] at first
          obtain ⟨steps', second⟩ :=
            inductionHypothesis fun other member => each other (List.mem_cons_of_mem _ member)
          exact ⟨steps + steps', first.append second⟩

/-- What an operation wraps lies behind it. -/
theorem Wraps.behind (wraps : fragment.Wraps op inner) : fragment.Behind inner op := by
  rcases wraps with ⟨-, first⟩ | ⟨-, input⟩
  · exact behind_of_inputDefinition? first
  · exact input

/-- Where no value depends on itself the loop ends, with what the recursion finds. -/
theorem exists_searches (acyclic : fragment.Acyclic) (op : Op) :
    ∃ steps, fragment.Searches steps [op] (fragment.plainMeaning acyclic op) := by
  induction op using acyclic.behind_wellFounded.induction with
  | _ op inductionHypothesis =>
    rw [plainMeaning_eq]
    cases decides : (fragment.clue op).meaning with
    | some meaning => exact ⟨1, .decided decides⟩
    | none =>
        obtain ⟨steps, later⟩ := exists_searches_of_each fun inner member =>
          inductionHypothesis inner (mem_behind.mp member).behind
        refine ⟨steps + 1, .further decides ?_⟩
        simpa using later

/-- The operations that a search can come to: the operation itself and what is wrapped in it, any
number of times. -/
def LeadsTo (fragment : Fragment) : Op → Op → Prop :=
  Relation.ReflTransGen fragment.Wraps

/-- A meaning that the recursion finds is the one of an operation that it can come to. -/
theorem exists_decides_of_plainMeaning
    (found : fragment.plainMeaning acyclic op = some meaning) :
    ∃ inner, fragment.LeadsTo op inner ∧ fragment.Decides inner meaning := by
  induction op using acyclic.behind_wellFounded.induction with
  | _ op inductionHypothesis =>
    rw [plainMeaning_eq, Option.or_eq_some_iff] at found
    rcases found with decides | ⟨-, found⟩
    · exact ⟨op, .refl, meaning_clue.mp decides⟩
    · obtain ⟨next, member, foundThere⟩ := List.exists_of_findSome?_eq_some found
      have wraps := mem_behind.mp member
      obtain ⟨inner, leads, decides⟩ := inductionHypothesis next wraps.behind foundThere
      exact ⟨inner, .head wraps leads, decides⟩

/-- The recursion finds a meaning if it can come to an operation that decides. -/
theorem exists_plainMeaning_of_decides (acyclic : fragment.Acyclic)
    (leads : fragment.LeadsTo op inner) (decides : fragment.Decides inner meaning) :
    ∃ found, fragment.plainMeaning acyclic op = some found := by
  induction leads using Relation.ReflTransGen.head_induction_on with
  | refl =>
      rw [plainMeaning_eq, meaning_clue.mpr decides]
      exact ⟨meaning, rfl⟩
  | @head op next wraps _ inductionHypothesis =>
      obtain ⟨found, foundThere⟩ := inductionHypothesis
      rw [plainMeaning_eq]
      cases (fragment.clue op).meaning with
      | some other => exact ⟨other, rfl⟩
      | none =>
          rw [Option.none_or, ← Option.isSome_iff_exists, List.findSome?_isSome_iff]
          exact ⟨next, mem_behind.mpr wraps, by rw [foundThere]; rfl⟩

end Recursion

/-- On an acyclic fragment the loop ends for every operation and finds what the recursion finds, and
the bound of the program lets it end for the operations of the fragment. It finds nothing exactly
if no operation decides that it can come to. -/
theorem meaning_by_recursion (fragment : Fragment) (acyclic : fragment.Acyclic) (op : Op) :
    (∃ steps, fragment.Searches steps [op] (fragment.plainMeaning acyclic op)) ∧
      (op ∈ fragment.ops → fragment.meaning? op = fragment.plainMeaning acyclic op) ∧
      (fragment.plainMeaning acyclic op = none ↔
        ∀ inner meaning, fragment.LeadsTo op inner → ¬ fragment.Decides inner meaning) := by
  obtain ⟨steps, search⟩ := exists_searches acyclic op
  refine ⟨⟨steps, search⟩, fun known => meaning?_of_searches known search, ?_⟩
  constructor
  · intro nothing inner meaning leads decides
    obtain ⟨found, isFound⟩ := exists_plainMeaning_of_decides acyclic leads decides
    rw [nothing] at isFound
    cases isFound
  · intro undecided
    rw [Option.eq_none_iff_forall_ne_some]
    intro meaning found
    obtain ⟨inner, leads, decides⟩ := exists_decides_of_plainMeaning found
    exact undecided inner meaning leads decides

section Witness

/-- A sum of two values from the stack, masked and joined with two copies of one of them and with an
input that denotes nothing. -/
def joinedSum : Fragment where
  entry := 0x1000
  values :=
    #[⟨.register "EBP", 4, none⟩, ⟨.temporary, 4, some 0⟩, ⟨.temporary, 4, some 1⟩,
      ⟨.temporary, 4, some 2⟩, ⟨.constant 0xff, 4, none⟩, ⟨.temporary, 4, some 3⟩,
      ⟨.temporary, 4, some 4⟩, ⟨.temporary, 4, some 5⟩]
  ops :=
    #[⟨0x1000, .load, [0], some 1⟩, ⟨0x1003, .load, [0], some 2⟩, ⟨0x1006, .intAdd, [1, 2], some 3⟩,
      ⟨0x1008, .intAnd, [3, 4], some 5⟩, ⟨0x100b, .intZext, [1], some 6⟩,
      ⟨0x100e, .piece, [5, 6, 6, 9], some 7⟩]

/-- The operation that joins the sum with the copies. -/
def joinedSumResult : Op :=
  ⟨0x100e, .piece, [5, 6, 6, 9], some 7⟩

/-- In the joined sum every operation reads values of earlier ones only. -/
theorem joinedSum_acyclic : joinedSum.Acyclic :=
  acyclic_of_ordered (by decide)

/-- Nothing is found behind the copies, and the sum behind the mask. -/
theorem joinedSum_means_add :
    joinedSum.plainMeaning joinedSum_acyclic joinedSumResult = some .add ∧
      joinedSum.meaning? joinedSumResult = some .add ∧
      ∃ inner meaning, joinedSum.LeadsTo joinedSumResult inner ∧
        joinedSum.Decides inner meaning := by
  have recursion := meaning_by_recursion joinedSum joinedSum_acyclic joinedSumResult
  have isSum : joinedSum.plainMeaning joinedSum_acyclic joinedSumResult = some .add := by
    simp [plainMeaning_eq, clue, Clue.further, Clue.decided, inputDefinition?, inputIs,
      inputIsConstant, constantOf?, definingOp?, value?, op?, joinedSum, joinedSumResult]
  have known : joinedSumResult ∈ joinedSum.ops := by simp [joinedSum, joinedSumResult]
  refine ⟨isSum, (recursion.2.1 known).trans isSum, ?_⟩
  by_contra none
  have nothing := recursion.2.2.mpr fun inner meaning leads decides =>
    none ⟨inner, meaning, leads, decides⟩
  simp [isSum] at nothing

end Witness

end VmRecovery.Ir.Fragment

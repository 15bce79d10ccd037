import VmRecovery.Proofs.Ir.Provenance

/-!
# Other names for registers

Which native registers a virtual machine runs on changes from one branch to the next, so what a
fragment is recognised as must not depend on their names. A renaming gives upper-case names other
upper-case names, apart from those that mean something by themselves. Renaming a fragment renames
the origins of its values and nothing else (`origins_rename`).
-/

namespace VmRecovery.Ir

/-! Upper-case names. -/

/-- A name without lower-case letters. -/
def IsUpperCase (name : String) : Prop :=
  name.map Char.toUpper = name

instance : DecidablePred IsUpperCase :=
  fun name => inferInstanceAs (Decidable (name.map Char.toUpper = name))

/-- Lowering the case of a letter does not change what raising it gives. -/
theorem toUpper_toLower (letter : Char) : letter.toLower.toUpper = letter.toUpper := by
  by_cases ascii : letter.toNat < 128
  · have all : ∀ code < 128, (Char.ofNat code).toLower.toUpper = (Char.ofNat code).toUpper := by
      decide
    have same := all letter.toNat ascii
    rwa [Char.ofNat_toNat] at same
  · have kept : letter.toLower = letter := by
      refine dif_neg fun upper => ascii ?_
      have bound : letter.toNat ≤ 'Z'.toNat := UInt32.le_iff_toNat_le.mp upper.2
      exact Nat.lt_of_le_of_lt bound (by decide)
    rw [kept]

/-- An upper-case name is known by its letters. -/
theorem IsUpperCase.map_toLower {name : String} (upper : IsUpperCase name) :
    (name.toList.map Char.toLower).map Char.toUpper = name.toList := by
  have folded : Char.toUpper ∘ Char.toLower = Char.toUpper := funext toUpper_toLower
  rw [List.map_map, folded, ← String.toList_map, upper]

/-- For upper-case names the case of letters does not matter. -/
theorem sameName_iff {name other : String} (upper : IsUpperCase name)
    (upper' : IsUpperCase other) : sameName name other = true ↔ name = other := by
  rw [sameName, beq_iff_eq]
  constructor
  · intro same
    have letters : name.toList.map Char.toLower = other.toList.map Char.toLower := by
      rw [← String.toList_map, ← String.toList_map, same]
    rw [← String.toList_inj, ← upper.map_toLower, ← upper'.map_toLower, letters]
  · exact fun same => same ▸ rfl

/-- A word occurs in a name. -/
def Mentions (word name : String) : Prop :=
  word.toList <:+: name.toList

/-- A word does not occur in a name that is shorter. -/
theorem not_mentions_of_short {word name : String}
    (short : name.toList.length < word.toList.length) : ¬ Mentions word name :=
  fun occurs => Nat.not_le_of_lt short occurs.length_le

/-- Upper-case words can be looked for among the lower-case letters. -/
theorem mentions_iff_lower {word name : String} (upper : IsUpperCase word)
    (upper' : IsUpperCase name) :
    Mentions word name ↔ word.toList.map Char.toLower <:+: name.toList.map Char.toLower := by
  constructor
  · exact fun occurs => occurs.map Char.toLower
  · intro occurs
    have raised := occurs.map Char.toUpper
    rwa [upper.map_toLower, upper'.map_toLower] at raised

/-! Renamings. -/

/-- The names that mean something by themselves: the stack pointer, the instruction pointer, the
flags and the base of a segment. -/
def reserved : List String :=
  ["ESP", "EIP", "EFLAGS", "FS_OFFSET"]

/-- Reserved names have no lower-case letters. -/
theorem isUpperCase_of_reserved : ∀ name ∈ reserved, IsUpperCase name := by
  intro name isReserved
  simp only [reserved, List.mem_cons, List.not_mem_nil, or_false] at isReserved
  rcases isReserved with rfl | rfl | rfl | rfl <;>
  · rw [IsUpperCase]
    cbv

/-- Other upper-case names for upper-case names. Reserved names are kept, and the results of the
processor identification keep names that tell so. -/
structure Renaming where
  rename : String → String
  upper : ∀ {name}, IsUpperCase name → IsUpperCase (rename name)
  injective : ∀ {name other}, IsUpperCase name → IsUpperCase other →
    rename name = rename other → name = other
  keeps : ∀ name ∈ reserved, rename name = name
  identification : ∀ {name}, IsUpperCase name →
    (Mentions "CPUID" (rename name) ↔ Mentions "CPUID" name)

instance : CoeFun Renaming fun _ => String → String :=
  ⟨Renaming.rename⟩

namespace Renaming

variable {names : Renaming} {name other : String}

/-- Renamed upper-case names are equal exactly if the plain ones are. -/
theorem eq_iff (names : Renaming) (upper : IsUpperCase name) (upper' : IsUpperCase other) :
    names name = names other ↔ name = other :=
  ⟨names.injective upper upper', congrArg names⟩

/-- Comparing renamed names gives what comparing the plain ones gives. -/
theorem beq_eq (names : Renaming) (upper : IsUpperCase name) (upper' : IsUpperCase other) :
    (names name == names other) = (name == other) := by
  rw [Bool.eq_iff_iff, beq_iff_eq, beq_iff_eq, names.eq_iff upper upper']

/-- Renamed names differ exactly if the plain ones do. -/
theorem bne_eq (names : Renaming) (upper : IsUpperCase name) (upper' : IsUpperCase other) :
    (names name != names other) = (name != other) :=
  congrArg Bool.not (names.beq_eq upper upper')

/-- Up to case, renamed names are the same exactly if the plain ones are. -/
theorem sameName_eq (names : Renaming) (upper : IsUpperCase name)
    (upper' : IsUpperCase other) :
    sameName (names name) (names other) = sameName name other := by
  rw [Bool.eq_iff_iff, sameName_iff upper upper',
    sameName_iff (names.upper upper) (names.upper upper'), names.eq_iff upper upper']

/-- A renamed name is a reserved one exactly if the plain name is. -/
theorem beq_reserved (names : Renaming) (upper : IsUpperCase name) (isReserved : other ∈ reserved) :
    (names name == other) = (name == other) := by
  rw [← names.beq_eq upper (isUpperCase_of_reserved other isReserved),
    names.keeps other isReserved]

/-- Up to case, a renamed name is a reserved one exactly if the plain name is. -/
theorem sameName_reserved (names : Renaming) (upper : IsUpperCase name)
    (isReserved : other ∈ reserved) : sameName (names name) other = sameName name other := by
  rw [← names.sameName_eq upper (isUpperCase_of_reserved other isReserved),
    names.keeps other isReserved]

/-- Two registers exchange their names. -/
def exchange (first second : String) (upper : IsUpperCase first) (upper' : IsUpperCase second)
    (free : first ∉ reserved) (free' : second ∉ reserved)
    (alike : Mentions "CPUID" first ↔ Mentions "CPUID" second) : Renaming where
  rename := Equiv.swap first second
  upper := by
    intro name named
    rw [Equiv.swap_apply_def]
    split
    · exact upper'
    split
    · exact upper
    · exact named
  injective _ _ same := (Equiv.swap first second).injective same
  keeps name isReserved := Equiv.swap_apply_of_ne_of_ne (fun same => free (same ▸ isReserved))
    fun same => free' (same ▸ isReserved)
  identification := by
    intro name _
    rw [Equiv.swap_apply_def]
    split
    · rename_i same
      rw [same, alike]
    split
    · rename_i _ same
      rw [same, alike]
    · rfl

end Renaming

/-! Renamed fragments. -/

def Location.rename (names : Renaming) : Location → Location
  | register name => register (names name)
  | location => location

/-- A location is not a register with lower-case letters in its name. -/
def Location.Uppercase : Location → Prop
  | register name => IsUpperCase name
  | _ => True

instance : DecidablePred Location.Uppercase
  | .register name => inferInstanceAs (Decidable (IsUpperCase name))
  | .stack _ | .constant _ | .temporary => .isTrue trivial

def Value.rename (names : Renaming) (value : Value) : Value :=
  { value with location := value.location.rename names }

def Origin.rename (names : Renaming) (origin : Origin) : Origin :=
  { origin with name := names origin.name }

namespace Fragment

/-- The fragment over other registers. -/
def rename (names : Renaming) (fragment : Fragment) : Fragment :=
  { fragment with
    values := fragment.values.map (Value.rename names)
    returns := fragment.returns.map fun binding => (names binding.1, binding.2) }

/-- All registers of a fragment have upper-case names. -/
structure Uppercase (fragment : Fragment) : Prop where
  values : ∀ value ∈ fragment.values, value.location.Uppercase
  returns : ∀ binding ∈ fragment.returns, IsUpperCase binding.1

instance (fragment : Fragment) : Decidable fragment.Uppercase :=
  decidable_of_iff ((∀ value ∈ fragment.values.toList, value.location.Uppercase) ∧
      ∀ binding ∈ fragment.returns, IsUpperCase binding.1)
    ⟨fun upper => ⟨fun value member => upper.1 value (Array.mem_toList_iff.mpr member), upper.2⟩,
      fun upper => ⟨fun value member => upper.values value (Array.mem_toList_iff.mp member),
        upper.returns⟩⟩

variable {fragment : Fragment} {names : Renaming}

/-- A renamed fragment has the same reads. -/
@[simp] theorem loads_rename : (fragment.rename names).loads = fragment.loads :=
  rfl

/-- A renamed fragment has the same writes. -/
@[simp] theorem stores_rename : (fragment.rename names).stores = fragment.stores :=
  rfl

/-- The bindings at the return bind the same values to the renamed registers. -/
@[simp] theorem returns_rename : (fragment.rename names).returns =
    fragment.returns.map fun binding => (names binding.1, binding.2) :=
  rfl

/-- A value of the renamed fragment lives in the renamed place. -/
@[simp] theorem value?_rename (id : ValueId) :
    (fragment.rename names).value? id = (fragment.value? id).map (Value.rename names) :=
  Array.getElem?_map

/-- Values are defined by the same operations. -/
@[simp] theorem definingOp?_rename :
    (fragment.rename names).definingOp? = fragment.definingOp? := by
  ext1 id
  rw [definingOp?, definingOp?, value?_rename]
  cases fragment.value? id <;> rfl

/-- Constants are the same, as they live in no register. -/
@[simp] theorem constantOf?_rename :
    (fragment.rename names).constantOf? = fragment.constantOf? := by
  ext1 id
  rw [constantOf?, constantOf?, value?_rename]
  rcases fragment.value? id with _ | ⟨_ | _ | _ | _, _, _⟩ <;> rfl

/-- The same values come from outside the fragment. -/
@[simp] theorem isInput_rename : (fragment.rename names).isInput = fragment.isInput := by
  ext1 id
  rw [isInput, isInput, value?_rename]
  rcases fragment.value? id with _ | ⟨_ | _ | _ | _, _, _⟩ <;> rfl

/-- A value lives in the renamed register. -/
@[simp] theorem registerOf?_rename (id : ValueId) :
    (fragment.rename names).registerOf? id = (fragment.registerOf? id).map names := by
  rw [registerOf?, registerOf?, value?_rename]
  rcases fragment.value? id with _ | ⟨_ | _ | _ | _, _, _⟩ <;> rfl

/-- In a fragment with upper-case names every value lives in an upper-case register. -/
theorem Uppercase.registerOf? (upper : fragment.Uppercase) {id : ValueId} {name : String}
    (lives : fragment.registerOf? id = some name) : IsUpperCase name := by
  unfold Fragment.registerOf? at lives
  split at lives
  · rename_i found
    obtain ⟨value, isValue, isRegister⟩ := Option.map_eq_some_iff.mp found
    cases lives
    have uppercase := upper.values value (Array.mem_of_getElem? isValue)
    rwa [isRegister] at uppercase
  · cases lives

/-- The value bound to a register is bound to the renamed one. -/
theorem returnBinding?_rename (upper : fragment.Uppercase) {name : String}
    (upper' : IsUpperCase name) :
    (fragment.rename names).returnBinding? (names name) = fragment.returnBinding? name := by
  have same : fragment.returns.find? ((fun binding => sameName binding.1 (names name)) ∘
      fun binding => (names binding.1, binding.2)) =
        fragment.returns.find? fun binding => sameName binding.1 name :=
    List.find?_congr fun binding member => names.sameName_eq (upper.returns binding member) upper'
  rw [returnBinding?, returnBinding?, returns_rename, List.find?_map, same, Option.map_map]
  rfl

/-! Renamed origins. -/

/-- A renamed fragment has the same waypoints of a trace. -/
@[simp] theorem contains_rename (waypoint : Waypoint) :
    (fragment.rename names).Contains waypoint ↔ fragment.Contains waypoint := by
  simp [Contains, readings, rename, loads, opsOf]

/-- A trace goes on from a waypoint to the same ones. -/
@[simp] theorem before_rename (waypoint : Waypoint) :
    (fragment.rename names).before waypoint = fragment.before waypoint := by
  simp [before]

/-- A trace finds the renamed origin at a waypoint. -/
theorem originAt?_rename (waypoint : Waypoint) :
    (fragment.rename names).originAt? waypoint =
      (fragment.originAt? waypoint).map (Origin.rename names) := by
  obtain ⟨value, reading⟩ := waypoint
  simp only [originAt?, definingOp?_rename, value?_rename]
  cases fragment.definingOp? value with
  | some op => rfl
  | none =>
      rcases fragment.value? value with _ | ⟨_ | _ | _ | _, _, _⟩
      · rfl
      · rfl
      · simp [Value.rename, Location.rename, Origin.rename, names.keeps "ESP" List.mem_cons_self]
      · rfl
      · rfl

/-- Origins in a fragment with upper-case names have upper-case names. -/
theorem Uppercase.originAt? (upper : fragment.Uppercase) {waypoint : Waypoint} {origin : Origin}
    (isOrigin : fragment.originAt? waypoint = some origin) : IsUpperCase origin.name := by
  obtain ⟨value, reading⟩ := waypoint
  obtain ⟨-, location, lives, named, -⟩ := originAt?_eq_some_iff.mp isOrigin
  obtain ⟨found, isValue, isLocation⟩ := Option.map_eq_some_iff.mp lives
  rcases named with isRegister | ⟨-, isStack⟩
  · have uppercase := upper.values found (Array.mem_of_getElem? isValue)
    rwa [isLocation, isRegister] at uppercase
  · rw [isStack]
    exact isUpperCase_of_reserved "ESP" List.mem_cons_self

/-- A renamed origin is new exactly if the plain one is, so the same ones are kept. -/
theorem remember_rename {found : List Origin} {origin? : Option Origin}
    (upper : ∀ origin ∈ found, IsUpperCase origin.name)
    (upper' : ∀ origin ∈ origin?, IsUpperCase origin.name) :
    remember (found.map (Origin.rename names)) (origin?.map (Origin.rename names)) =
      (remember found origin?).map (Origin.rename names) := by
  cases origin? with
  | none => rfl
  | some origin =>
      have known : origin.rename names ∈ found.map (Origin.rename names) ↔ origin ∈ found := by
        rw [List.mem_map]
        constructor
        · rintro ⟨other, member, same⟩
          rw [Origin.rename, Origin.rename, Origin.mk.injEq,
            names.eq_iff (upper other member) (upper' origin rfl)] at same
          obtain ⟨name, viaMemory, address⟩ := other
          obtain ⟨rfl, rfl, rfl⟩ := same
          exact member
        · exact fun member => ⟨origin, member, rfl⟩
      simp only [Option.map_some, remember, known]
      split
      · rfl
      · rw [List.map_append, List.map_singleton]

/-- The search goes the same way over other registers. -/
theorem search_rename (upper : fragment.Uppercase) {visited pending : List Waypoint}
    {found : List Origin} (named : ∀ origin ∈ found, IsUpperCase origin.name) :
    (fragment.rename names).search visited pending (found.map (Origin.rename names)) =
      (fragment.search visited pending found).map (Origin.rename names) := by
  -- Both searches take the same branch at each step, since no condition looks at a name.
  induction visited, pending, found using Fragment.search.induct fragment with
  | case1 visited found =>
      rw [Fragment.search, Fragment.search]
  | case2 visited found waypoint rest enters inductionHypothesis =>
      have enters' : (fragment.rename names).Contains waypoint ∧ waypoint ∉ visited := by
        rwa [contains_rename]
      have named' : ∀ origin ∈ remember found (fragment.originAt? waypoint),
          IsUpperCase origin.name := by
        intro origin member
        rcases mem_remember.mp member with known | isOrigin
        · exact named origin known
        · exact upper.originAt? isOrigin
      rw [search_of_entered enters, search_of_entered enters', before_rename, originAt?_rename,
        remember_rename named fun _ => upper.originAt?]
      exact inductionHypothesis named'
  | case3 visited found waypoint rest refused inductionHypothesis =>
      have refused' : ¬ ((fragment.rename names).Contains waypoint ∧ waypoint ∉ visited) := by
        rwa [contains_rename]
      rw [search_of_refused refused, search_of_refused refused']
      exact inductionHypothesis named

/-- Over other registers a value derives from the renamed origins, in the same order. -/
theorem origins_rename (upper : fragment.Uppercase) (value : ValueId) :
    (fragment.rename names).origins value =
      (fragment.origins value).map (Origin.rename names) :=
  search_rename upper (List.forall_mem_nil _)

/-- The origins of a value have upper-case names if the fragment does. -/
theorem Uppercase.origins (upper : fragment.Uppercase) {value : ValueId} :
    ∀ origin ∈ fragment.origins value, IsUpperCase origin.name := by
  intro origin member
  obtain ⟨visited, ended⟩ := (Searching.initial fragment (value, none)).search
  obtain ⟨waypoint, -, isOrigin⟩ := ended.sound origin member
  exact upper.originAt? isOrigin

end Fragment

/-! Looking at renamed origins. -/

namespace Origin

variable {names : Renaming} {origin other : Origin}

/-- A renamed origin has the renamed name. -/
@[simp] theorem name_rename : (origin.rename names).name = names origin.name :=
  rfl

/-- A renamed origin is read through memory exactly if the plain one is. -/
@[simp] theorem viaMemory_rename : (origin.rename names).viaMemory = origin.viaMemory :=
  rfl

/-- A renamed origin is read at the same address. -/
@[simp] theorem address_rename : (origin.rename names).address = origin.address :=
  rfl

/-- A renamed origin matches a renamed register as the plain one matches the register. -/
theorem matches_rename {name : String} (upper : IsUpperCase origin.name)
    (upper' : IsUpperCase name) (viaMemory : Bool) :
    (origin.rename names).matches (names name) viaMemory = origin.matches name viaMemory := by
  rw [Origin.matches, Origin.matches, Origin.rename, names.sameName_eq upper upper']

/-- A renamed origin matches a reserved name as the plain one does. -/
theorem matches_reserved (names : Renaming) {name : String} (upper : IsUpperCase origin.name)
    (isReserved : name ∈ reserved) (viaMemory : Bool) :
    (origin.rename names).matches name viaMemory = origin.matches name viaMemory := by
  rw [Origin.matches, Origin.matches, Origin.rename, names.sameName_reserved upper isReserved]

variable {origins : List Origin}

/-- Filtering renamed origins keeps the renamed ones of those that are kept of the plain ones. -/
theorem filter_rename (names : Renaming) (accepts accepts' : Origin → Bool)
    (same : ∀ origin ∈ origins, accepts' (origin.rename names) = accepts origin) :
    (origins.map (Origin.rename names)).filter accepts' =
      (origins.filter accepts).map (Origin.rename names) := by
  rw [List.filter_map]
  exact congrArg _ (List.filter_congr same)

/-- Some renamed origin is accepted exactly if some plain one is. -/
theorem any_rename (names : Renaming) (accepts accepts' : Origin → Bool)
    (same : ∀ origin ∈ origins, accepts' (origin.rename names) = accepts origin) :
    (origins.map (Origin.rename names)).any accepts' = origins.any accepts := by
  rw [List.any_map, Bool.eq_iff_iff, List.any_eq_true, List.any_eq_true]
  exact exists_congr fun origin => and_congr_right fun member => by
    rw [Function.comp, same origin member]

/-- All renamed origins are accepted exactly if all plain ones are. -/
theorem all_rename (names : Renaming) (accepts accepts' : Origin → Bool)
    (same : ∀ origin ∈ origins, accepts' (origin.rename names) = accepts origin) :
    (origins.map (Origin.rename names)).all accepts' = origins.all accepts := by
  rw [List.all_map, Bool.eq_iff_iff, List.all_eq_true, List.all_eq_true]
  exact forall₂_congr fun origin member => by
    rw [Function.comp, same origin member]

end Origin

end VmRecovery.Ir

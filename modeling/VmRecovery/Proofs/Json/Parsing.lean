import VmRecovery.Json.Reader
import VmRecovery.Proofs.Json.Lexing

/-!
# Reading what was written

A written value spells the tokens of what is left of it (`spells_prettyAt`), and the tokens of a
value are put together to it (`foldlM_tokens`). So a written document is read as what is left of
its value (`parse?_pretty`): the value itself, except that digits after a point become a power
of ten, that an escape counts as one, and that a text which names no characters is empty.
-/

namespace VmRecovery.Json

mutual

/-- What is left of a value that is written and read again. -/
def reread : Json → Json
  | null => null
  | bool value => bool value
  | number value => number value.reread
  | text value => text value.reread
  | array items => array (rereadItems items)
  | object fields => object (rereadFields fields)

/-- What is left of the items of an array. -/
def rereadItems : List Json → List Json
  | [] => []
  | item :: rest => reread item :: rereadItems rest

/-- What is left of the fields of an object. -/
def rereadFields : List (Text × Json) → List (Text × Json)
  | [] => []
  | (key, value) :: rest => (key.reread, reread value) :: rereadFields rest

end

mutual

/-- The tokens of a value. -/
def tokens : Json → List Token
  | null => [.null]
  | bool value => [.bool value]
  | number value => [.number value]
  | text value => [.text value]
  | array items => .openArray :: ([Token.comma].intercalate (itemTokens items) ++ [.closeArray])
  | object fields =>
      .openObject :: ([Token.comma].intercalate (fieldTokens fields) ++ [.closeObject])

/-- The tokens of each item of an array. -/
def itemTokens : List Json → List (List Token)
  | [] => []
  | item :: rest => tokens item :: itemTokens rest

/-- The tokens of each field of an object. -/
def fieldTokens : List (Text × Json) → List (List Token)
  | [] => []
  | (key, value) :: rest => (.text key :: .colon :: tokens value) :: fieldTokens rest

end

/-! Written values spell their tokens. -/

/-- The characters spell the tokens wherever a token may end. -/
def SpellsDelimited (line : List Char) (tokens : List Token) : Prop :=
  ∀ rest, Delimited rest → Spells line tokens rest

theorem toList_lineBreak (level : Nat) :
    (lineBreak level).toList = '\n' :: List.replicate (2 * level) ' ' := by
  simp [lineBreak]

/-- A line break spells nothing. -/
theorem spells_lineBreak (level : Nat) (rest : List Char) :
    Spells (lineBreak level).toList [] rest := by
  refine .blank fun c member => ?_
  rw [toList_lineBreak, List.mem_cons, List.mem_replicate] at member
  rcases member with rfl | ⟨-, rfl⟩
  · rfl
  · rfl

/-- Lines between brackets spell their tokens between the brackets. -/
theorem spells_bracketed {opening closing : String} {c d : Char} {opens closes : Token}
    {lines : List String} {spelled : List (List Token)} (level : Nat)
    (isOpening : opening.toList = [c]) (isClosing : closing.toList = [d])
    (opened : Mode.start? c = some ([opens], .between))
    (closed : Mode.start? d = some ([closes], .between))
    (each : List.Forall₂ SpellsDelimited (lines.map String.toList) spelled) (rest : List Char) :
    Spells (bracketed opening closing level lines).toList
      (opens :: ([Token.comma].intercalate spelled ++ [closes])) rest := by
  unfold bracketed
  split
  · rename_i empty
    obtain rfl := List.isEmpty_iff.mp empty
    cases each
    rw [String.toList_append, isOpening, isClosing]
    exact (Spells.single opened).append (Spells.single closed)
  · have separator : ("," ++ lineBreak (level + 1)).toList =
        ',' :: (lineBreak (level + 1)).toList := by
      rw [String.toList_append]
      rfl
    have separates : ∀ rest, Spells ("," ++ lineBreak (level + 1)).toList [.comma] rest := by
      intro rest
      have comma : Mode.start? ',' = some ([.comma], .between) := rfl
      rw [separator]
      exact (Spells.single comma).append (spells_lineBreak _ _)
    have delimits : ∀ rest, Delimited (("," ++ lineBreak (level + 1)).toList ++ rest) := by
      intro rest c head
      rw [separator] at head
      cases head
      exact ⟨rfl, rfl⟩
    have ends : Delimited ((lineBreak level).toList ++ [d] ++ rest) := by
      intro c head
      rw [toList_lineBreak] at head
      cases head
      exact ⟨rfl, rfl⟩
    have written : (opening ++ lineBreak (level + 1) ++
          separated ("," ++ lineBreak (level + 1)) lines ++ lineBreak level ++ closing).toList =
        [c] ++ ((lineBreak (level + 1)).toList ++
          (("," ++ lineBreak (level + 1)).toList.intercalate (lines.map String.toList) ++
            ((lineBreak level).toList ++ [d]))) := by
      simp only [String.toList_append, isOpening, isClosing, separated, String.toList_intercalate,
        List.append_assoc]
    rw [written]
    exact (Spells.single opened).append <| (spells_lineBreak _ _).append <|
      (Spells.intercalate separates delimits each _ ends).append <|
        (spells_lineBreak _ _).append (Spells.single closed)

mutual

/-- A written value spells what is left of it. -/
theorem spells_prettyAt (level : Nat) (value : Json) :
    SpellsDelimited (prettyAt level value).toList (tokens (reread value)) := by
  intro rest delimited
  match value with
  | .null =>
      have isNull : Mode.keyword? ('n' :: ['u', 'l', 'l']) = some .null := rfl
      rw [prettyAt, reread, tokens]
      exact spells_keyword isNull (by decide) rfl delimited
  | .bool true =>
      have isTrue : Mode.keyword? ('t' :: ['r', 'u', 'e']) = some (.bool true) := rfl
      rw [prettyAt, reread, tokens]
      exact spells_keyword isTrue (by decide) rfl delimited
  | .bool false =>
      have isFalse : Mode.keyword? ('f' :: ['a', 'l', 's', 'e']) = some (.bool false) := rfl
      rw [prettyAt, reread, tokens]
      exact spells_keyword isFalse (by decide) rfl delimited
  | .number value =>
      rw [prettyAt, reread, tokens]
      exact value.spells delimited
  | .text value =>
      rw [prettyAt, reread, tokens]
      exact value.spells rest
  | .array items =>
      rw [prettyAt, reread, tokens]
      exact spells_bracketed level rfl rfl rfl rfl (spells_prettyItems (level + 1) items) rest
  | .object fields =>
      rw [prettyAt, reread, tokens]
      exact spells_bracketed level rfl rfl rfl rfl (spells_prettyFields (level + 1) fields) rest

theorem spells_prettyItems (level : Nat) (items : List Json) :
    List.Forall₂ SpellsDelimited ((prettyItems level items).map String.toList)
      (itemTokens (rereadItems items)) := by
  match items with
  | [] => exact .nil
  | item :: rest =>
      exact .cons (spells_prettyAt level item) (spells_prettyItems level rest)

theorem spells_prettyFields (level : Nat) (fields : List (Text × Json)) :
    List.Forall₂ SpellsDelimited ((prettyFields level fields).map String.toList)
      (fieldTokens (rereadFields fields)) := by
  match fields with
  | [] => exact .nil
  | (key, value) :: others =>
      refine .cons (fun rest delimited => ?_) (spells_prettyFields level others)
      have colon : Mode.start? ':' = some ([.colon], .between) := rfl
      have space : Mode.start? ' ' = some ([], .between) := rfl
      have written : (key.write ++ ": " ++ prettyAt level value).toList =
          key.write.toList ++ ([':'] ++ ([' '] ++ (prettyAt level value).toList)) := by
        simp
      rw [written]
      exact (key.spells _).append <| (Spells.single colon).append <|
        (Spells.single space).append (spells_prettyAt level value rest delimited)

end

/-- The tokens of a written value are those of what is left of it. -/
theorem tokens?_pretty (value : Json) : tokens? value.pretty = some (tokens (reread value)) := by
  have spelled := spells_prettyAt 0 value [] (by simp [Delimited]) []
  rw [List.append_nil, List.append_nil] at spelled
  rw [tokens?, pretty, spelled, scan]
  simp [Mode.close?]

/-! The tokens of a value are put together to it. -/

/-- No value begins with a closing bracket. -/
theorem head?_tokens (value : Json) :
    ∃ first, (tokens value).head? = some first ∧ first ≠ .closeArray := by
  cases value with
  | _ =>
      refine ⟨_, by rw [tokens]; rfl, ?_⟩
      simp

/-- An array begins with its first item. -/
theorem itemTokens_begin (item : Json) (rest : List Json) :
    ∃ first more, first ≠ .closeArray ∧
      [Token.comma].intercalate (itemTokens (item :: rest)) ++ [Token.closeArray] =
        first :: more := by
  obtain ⟨first, head, opens⟩ := head?_tokens item
  obtain ⟨more, spelled⟩ := List.head?_eq_some_iff.mp head
  rw [itemTokens, spelled]
  cases itemTokens rest with
  | nil => exact ⟨first, _, opens, rfl⟩
  | cons second others =>
      rw [List.intercalate_cons_cons]
      exact ⟨first, _, opens, rfl⟩

/-- An object begins with its first key. -/
theorem fieldTokens_begin (key : Text) (value : Json) (rest : List (Text × Json)) :
    ∃ more, [Token.comma].intercalate (fieldTokens ((key, value) :: rest)) ++
      [Token.closeObject] = .text key :: more := by
  rw [fieldTokens]
  cases fieldTokens rest with
  | nil => exact ⟨_, rfl⟩
  | cons second others =>
      rw [List.intercalate_cons_cons]
      exact ⟨_, rfl⟩

namespace Progress

/-- What begins with the first item of an array goes on like any other item. -/
theorem feed?_firstItem {first : Token} (opens : first ≠ .closeArray) (done : List Json)
    (stack : List Frame) :
    feed? (.inside (.array done :: stack) .firstItem) first =
      feed? (.inside (.array done :: stack) .value) first := by
  cases first with
  | closeArray => exact absurd rfl opens
  | _ => rfl

/-- A bracket that closes what has just been opened ends an empty array or object. -/
theorem foldlM_empty (stack : List Frame) :
    [Token.closeArray].foldlM feed? (.inside (.array [] :: stack) .firstItem) =
        place? (.array []) stack ∧
      [Token.closeObject].foldlM feed? (.inside (.object [] :: stack) .firstKey) =
        place? (.object []) stack := by
  constructor
  · change ((place? (.array []) stack <|> none) >>= pure) = _
    simp
  · change ((place? (.object []) stack <|> none) >>= pure) = _
    simp

theorem foldlM_closeArray (done : List Json) (stack : List Frame) :
    [Token.closeArray].foldlM feed? (.inside (.array done :: stack) .separator) =
      place? (.array done.reverse) stack :=
  bind_pure (place? (.array done.reverse) stack)

theorem foldlM_closeObject (done : List (Text × Json)) (stack : List Frame) :
    [Token.closeObject].foldlM feed? (.inside (.object done :: stack) .separator) =
      place? (.object done.reverse) stack :=
  bind_pure (place? (.object done.reverse) stack)

end Progress

open Progress

mutual

/-- The tokens of a value make up the value. -/
theorem foldlM_tokens (value : Json) (stack : List Frame) :
    (tokens value).foldlM feed? (.inside stack .value) = place? value stack := by
  match value with
  | .null => exact bind_pure (place? .null stack)
  | .bool value => exact bind_pure (place? (.bool value) stack)
  | .number value => exact bind_pure (place? (.number value) stack)
  | .text value => exact bind_pure (place? (.text value) stack)
  | .array [] => exact (foldlM_empty stack).1
  | .array (item :: rest) =>
      have items := foldlM_itemTokens (item :: rest) [] stack (List.cons_ne_nil _ _)
      obtain ⟨first, more, opens, spelled⟩ := itemTokens_begin item rest
      rw [spelled, List.foldlM_cons, ← feed?_firstItem opens] at items
      rw [tokens, spelled]
      exact items
  | .object [] => exact (foldlM_empty stack).2
  | .object ((key, value) :: rest) =>
      have fields := foldlM_fieldTokens ((key, value) :: rest) [] stack (List.cons_ne_nil _ _)
      obtain ⟨more, spelled⟩ := fieldTokens_begin key value rest
      rw [spelled] at fields
      rw [tokens, spelled]
      exact fields

/-- The tokens of items, and the closing bracket, make up an array. -/
theorem foldlM_itemTokens (items done : List Json) (stack : List Frame) (nonempty : items ≠ []) :
    ([Token.comma].intercalate (itemTokens items) ++ [Token.closeArray]).foldlM feed?
        (.inside (.array done :: stack) .value) =
      place? (.array (done.reverse ++ items)) stack := by
  match items with
  | item :: rest =>
      have here : ∀ more,
          (tokens item ++ more).foldlM feed? (.inside (.array done :: stack) .value) =
            more.foldlM feed? (.inside (.array (item :: done) :: stack) .separator) := by
        intro more
        rw [List.foldlM_append, foldlM_tokens item]
        rfl
      match rest with
      | [] =>
          rw [itemTokens, itemTokens, List.intercalate_singleton, here, foldlM_closeArray,
            List.reverse_cons]
      | second :: others =>
          have further := foldlM_itemTokens (second :: others) (item :: done) stack
            (List.cons_ne_nil _ _)
          rw [List.reverse_cons, List.append_assoc] at further
          rw [itemTokens, itemTokens, List.intercalate_cons_cons, List.append_assoc,
            List.append_assoc, here]
          exact further

/-- The tokens of fields, and the closing bracket, make up an object. -/
theorem foldlM_fieldTokens (fields done : List (Text × Json)) (stack : List Frame)
    (nonempty : fields ≠ []) :
    ([Token.comma].intercalate (fieldTokens fields) ++ [Token.closeObject]).foldlM feed?
        (.inside (.object done :: stack) .key) =
      place? (.object (done.reverse ++ fields)) stack := by
  match fields with
  | (key, value) :: rest =>
      have here : ∀ more, (.text key :: .colon :: tokens value ++ more).foldlM feed?
            (.inside (.object done :: stack) .key) =
          more.foldlM feed? (.inside (.object ((key, value) :: done) :: stack) .separator) := by
        intro more
        change (tokens value ++ more).foldlM feed? (.inside (.field done key :: stack) .value) = _
        rw [List.foldlM_append, foldlM_tokens value]
        rfl
      match rest with
      | [] =>
          rw [fieldTokens, fieldTokens, List.intercalate_singleton, here, foldlM_closeObject,
            List.reverse_cons]
      | (key', value') :: others =>
          have further := foldlM_fieldTokens ((key', value') :: others) ((key, value) :: done) stack
            (List.cons_ne_nil _ _)
          rw [List.reverse_cons, List.append_assoc] at further
          rw [fieldTokens, fieldTokens, List.intercalate_cons_cons, List.append_assoc,
            List.append_assoc, here]
          exact further

end

/-- A written document is read as what is left of its value. -/
theorem parse?_pretty (value : Json) : parse? value.pretty = some (reread value) := by
  rw [parse?, tokens?_pretty, Option.bind_some, ofTokens?, foldlM_tokens]
  rfl

end VmRecovery.Json

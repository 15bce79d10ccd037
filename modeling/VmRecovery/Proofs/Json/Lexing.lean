import Mathlib.Data.List.Basic
import VmRecovery.Json.Token
import VmRecovery.Json.Writer

/-!
# What written values spell

Characters spell tokens if the automaton reads just these tokens off them (`Spells`). Whether a
number or a word has ended shows only in the character behind it, so what characters spell may
depend on what follows. `Numeral.spells` and `Text.spells` state that a written number and a
written text are read as one token each, and what is left of them in it.
-/

namespace VmRecovery.Json

/-- Between two tokens, the characters spell the tokens if `rest` follows. -/
def Spells (chars : List Char) (tokens : List Token) (rest : List Char) : Prop :=
  ∀ done, scan .between done (chars ++ rest) = scan .between (tokens.reverse ++ done) rest

/-- What follows cannot go on with a number or a word. -/
def Delimited (rest : List Char) : Prop :=
  ∀ c ∈ rest.head?, c.isLower = false ∧ Mode.isNumeralChar c = false

/-- A character is fed to the automaton, and the tokens it completes are put in front. -/
theorem scan_cons {mode next : Mode} {tokens done : List Token} {c : Char} {rest : List Char}
    (fed : mode.feed? c = some (tokens, next)) :
    scan mode done (c :: rest) = scan next (tokens.reverse ++ done) rest := by
  rw [scan, fed]

/-- Between two tokens a token begins, or white space goes on. -/
theorem scan_start {next : Mode} {tokens done : List Token} {c : Char} {rest : List Char}
    (started : Mode.start? c = some (tokens, next)) :
    scan .between done (c :: rest) = scan next (tokens.reverse ++ done) rest :=
  @scan_cons .between next tokens done c rest started

namespace Spells

variable {chars more rest : List Char} {tokens further : List Token}

theorem nil : Spells [] [] rest := fun _ => rfl

/-- Characters that spell tokens one after the other spell all of them together. -/
theorem append (first : Spells chars tokens (more ++ rest)) (second : Spells more further rest) :
    Spells (chars ++ more) (tokens ++ further) rest := by
  intro done
  rw [List.append_assoc, first, second, List.reverse_append, List.append_assoc]

/-- A character that is a token, or white space. -/
theorem single {c : Char} (fed : Mode.start? c = some (tokens, .between)) :
    Spells [c] tokens rest := by
  intro done
  exact scan_start fed

/-- White space spells nothing. -/
theorem blank {spaces : List Char} (blank : ∀ c ∈ spaces, isBlank c = true) :
    Spells spaces [] rest := by
  induction spaces with
  | nil => exact nil
  | cons c spaces inductionHypothesis =>
      have here : Mode.start? c = some ([], .between) := by
        simp [Mode.start?, blank c List.mem_cons_self]
      exact (single here).append
        (inductionHypothesis fun other member => blank other (List.mem_cons_of_mem _ member))

/-- Texts that are separated by commas spell their tokens with commas in between. -/
theorem intercalate {separator : List Char} {lines : List (List Char)}
    {spelled : List (List Token)} (separates : ∀ rest, Spells separator [.comma] rest)
    (delimits : ∀ rest, Delimited (separator ++ rest))
    (each : List.Forall₂ (fun line tokens => ∀ rest, Delimited rest → Spells line tokens rest)
      lines spelled)
    (rest : List Char) (delimited : Delimited rest) :
    Spells (separator.intercalate lines) ([Token.comma].intercalate spelled) rest := by
  induction each with
  | nil => exact nil
  | @cons line tokens lines spelled first others inductionHypothesis =>
      cases others with
      | nil =>
          rw [List.intercalate_singleton, List.intercalate_singleton]
          exact first rest delimited
      | cons second others =>
          rw [List.intercalate_cons_cons, List.intercalate_cons_cons, List.append_assoc,
            List.append_assoc]
          exact (first _ (by rw [List.append_assoc]; exact delimits _)).append
            ((separates _).append inductionHypothesis)

end Spells

/-! Words and numbers end where something else begins. -/

/-- A token that has ended is handed out before the next one begins. -/
theorem scan_closed {mode : Mode} {ended done : List Token} {rest : List Char}
    (closed : mode.close? = some ended)
    (next : ∀ c ∈ rest.head?, mode.feed? c =
      (Mode.start? c).map fun (started, after) => (ended ++ started, after)) :
    scan mode done rest = scan .between (ended.reverse ++ done) rest := by
  cases rest with
  | nil =>
      rw [scan, closed, scan]
      simp [Mode.close?]
  | cons c rest =>
      rw [scan, scan, next c rfl, Mode.feed?]
      cases Mode.start? c with
      | none => rfl
      | some started => simp

/-- Characters that go on with what the automaton is in the middle of are collected. -/
theorem scan_collected {collect : List Char → Mode} {chars : List Char}
    (goesOn : ∀ c ∈ chars, ∀ seen, (collect seen).feed? c = some ([], collect (c :: seen)))
    (seen : List Char) (done : List Token) (rest : List Char) :
    scan (collect seen) done (chars ++ rest) =
      scan (collect (chars.reverse ++ seen)) done rest := by
  induction chars generalizing seen with
  | nil => rfl
  | cons c chars inductionHypothesis =>
      rw [List.cons_append, scan_cons (goesOn c List.mem_cons_self seen), List.reverse_nil,
        List.nil_append,
        inductionHypothesis (fun other member => goesOn other (List.mem_cons_of_mem _ member)),
        List.reverse_cons, List.append_assoc]
      rfl

/-- The lower-case letters of a keyword spell it. -/
theorem spells_keyword {c : Char} {letters : List Char} {token : Token}
    (isKeyword : Mode.keyword? (c :: letters) = some token)
    (lower : (c :: letters).all Char.isLower = true)
    (started : Mode.start? c = some ([], .word [c])) {rest : List Char}
    (delimited : Delimited rest) : Spells (c :: letters) [token] rest := by
  intro done
  have closed : (Mode.word (letters.reverse ++ [c])).close? = some [token] := by
    simp [Mode.close?, isKeyword]
  rw [List.cons_append, scan_start started,
    scan_collected fun other member seen => by
      have isLower := List.all_eq_true.mp lower other (List.mem_cons_of_mem _ member)
      simp [Mode.feed?, isLower]]
  refine scan_closed closed fun other head => ?_
  rw [Mode.feed?, closed, (delimited other head).1]
  cases Mode.start? other <;> rfl

/-- The characters of a number spell it. -/
theorem spells_numeral {c : Char} {chars : List Char} {numeral : Numeral}
    (isNumeral : Numeral.ofChars? (c :: chars) = some numeral)
    (begins : c.isDigit = true ∨ c = '-')
    (goesOn : ∀ other ∈ chars, Mode.isNumeralChar other = true) {rest : List Char}
    (delimited : Delimited rest) : Spells (c :: chars) [.number numeral] rest := by
  intro done
  have closed : (Mode.numeral (chars.reverse ++ [c])).close? = some [.number numeral] := by
    simp [Mode.close?, isNumeral]
  have started : Mode.start? c = some ([], .numeral [c]) := by
    rcases begins with digit | rfl
    · have solid : isBlank c = false := by
        simp only [isBlank, Bool.or_eq_false_iff, beq_eq_false_iff_ne]
        refine ⟨⟨⟨?_, ?_⟩, ?_⟩, ?_⟩ <;> rintro rfl <;> simp at digit
      simp [Mode.start?, solid, digit]
    · rfl
  rw [List.cons_append, scan_start started,
    scan_collected fun other member seen => by simp [Mode.feed?, goesOn other member]]
  refine scan_closed closed fun other head => ?_
  rw [Mode.feed?, closed, (delimited other head).2]
  cases Mode.start? other <;> rfl

/-! Numbers. -/

/-- A digit goes on with a number. -/
theorem isNumeralChar_of_isDigit {c : Char} (digit : c.isDigit = true) :
    Mode.isNumeralChar c = true := by
  simp [Mode.isNumeralChar, digit]

/-- The digits that a number is written with. -/
def digitsOf (number : Nat) : List Char := Nat.toDigits 10 number

/-- A natural number is written with its digits. -/
theorem toList_toString (number : Nat) : (toString number).toList = digitsOf number := by
  rw [Nat.toString_eq_ofList_toDigits, String.toList_ofList, digitsOf]

/-- An integer that is not negative is written with its digits. -/
theorem toList_toString_ofNat (number : Nat) :
    (toString (Int.ofNat number)).toList = digitsOf number :=
  toList_toString number

/-- A negative integer is written with its digits behind a sign. -/
theorem toList_toString_negSucc (number : Nat) :
    (toString (Int.negSucc number)).toList = '-' :: digitsOf (number + 1) := by
  change ("-" ++ toString (number + 1)).toList = _
  rw [String.toList_append, toList_toString]
  rfl

/-- A number is written with digits only. -/
theorem isDigit_of_mem_digitsOf {number : Nat} {c : Char} (member : c ∈ digitsOf number) :
    c.isDigit = true :=
  Nat.isDigit_of_mem_toDigits (by decide) (by decide) member

/-- The digits of a number denote it. -/
theorem decimal_digitsOf (number : Nat) : decimal (digitsOf number) = number := by
  have same := @Nat.ofDigitChars_ten_toDigits number
  simp only [Nat.ofDigitChars, Nat.mul_comm 10] at same
  exact same

/-- A number is written without leading zeros. -/
theorem digitsOf_ne_zero_cons {number : Nat} (positive : 0 < number) :
    (digitsOf number).head? ≠ some '0' := by
  induction number using Nat.strongRecOn with
  | ind number inductionHypothesis =>
      have small : ∀ digit < 10, 0 < digit → [Nat.digitChar digit].head? ≠ some '0' := by decide
      rw [digitsOf, Nat.toDigits_eq_if (by decide)]
      split
      · rename_i below
        exact small number below positive
      · have shorter := inductionHypothesis (number / 10) (by omega) (by omega)
        rw [List.head?_append_of_ne_nil _ Nat.toDigits_ne_nil]
        exact shorter

/-- The digits of a number begin with a zero only if they are one zero. -/
theorem digitsOf_plain (number : Nat) :
    digitsOf number ≠ [] ∧
      ((digitsOf number).length > 1 → (digitsOf number).head? ≠ some '0') := by
  refine ⟨Nat.toDigits_ne_nil, fun longer => ?_⟩
  rcases Nat.eq_zero_or_pos number with rfl | positive
  · simp [digitsOf] at longer
  · exact digitsOf_ne_zero_cons positive

namespace Numeral

/-- What is left of a written number: digits after a point become a power of ten. -/
def reread (numeral : Numeral) : Numeral :=
  if numeral.isIntegral then numeral
  else { negative := numeral.negative, digits := numeral.digits, exponent := some numeral.scale }

/-- The power of ten of a number, as it is written behind the digits. -/
def tail (numeral : Numeral) : List Char :=
  if numeral.isIntegral then [] else 'e' :: (toString numeral.scale).toList

/-- A numeral is written as its sign, its digits and its power of ten. -/
theorem toList_write (numeral : Numeral) :
    numeral.write.toList =
      (if numeral.negative then ['-'] else []) ++ digitsOf numeral.digits ++ numeral.tail := by
  rw [write, String.toList_append, String.toList_append, toList_toString, tail]
  congr 1
  · congr 1
    split <;> rfl
  · split
    · rfl
    · rw [String.toList_append]
      rfl

/-- The digits of a number are read as it. -/
theorem magnitude?_digitsOf (number : Nat) : magnitude? (digitsOf number) = some number := by
  have digits : (digitsOf number).all Char.isDigit = true :=
    List.all_eq_true.mpr fun c member => isDigit_of_mem_digitsOf member
  simp [magnitude?, (digitsOf_plain number).1, digits, decimal_digitsOf]

/-- A written power of ten is read. -/
theorem exponent?_toString (power : Int) :
    exponent? ('e' :: (toString power).toList) = some (some power) := by
  cases power with
  | ofNat power =>
      obtain ⟨c, digits, spelled⟩ := List.exists_cons_of_ne_nil (digitsOf_plain power).1
      have digit : c.isDigit = true :=
        isDigit_of_mem_digitsOf (spelled.symm ▸ List.mem_cons_self)
      have unsigned : c ≠ '-' ∧ c ≠ '+' := by
        constructor
        · rintro rfl
          exact absurd digit (by decide)
        · rintro rfl
          exact absurd digit (by decide)
      have read := magnitude?_digitsOf power
      rw [spelled] at read
      rw [toList_toString_ofNat, spelled]
      simp [exponent?, unsigned, read]
  | negSucc power =>
      rw [toList_toString_negSucc]
      simp [exponent?, magnitude?_digitsOf, Int.negSucc_eq]

/-- The tail of a number begins with neither a digit nor a point. -/
theorem tail_stops (numeral : Numeral) :
    ∀ c ∈ numeral.tail.head?, c.isDigit = false ∧ c ≠ '.' := by
  intro c head
  unfold tail at head
  split at head
  · cases head
  · cases head
    decide

/-- The tail of a numeral is read as its power of ten, which an integral one does not have. -/
theorem exponent?_tail (numeral : Numeral) :
    exponent? numeral.tail = some (if numeral.isIntegral then none else some numeral.scale) := by
  unfold tail
  split
  · rfl
  · exact exponent?_toString numeral.scale

/-- The digits of a number are taken up to its tail. -/
theorem takeWhile_digitsOf (number : Nat) {tail : List Char}
    (stops : ∀ c ∈ tail.head?, c.isDigit = false ∧ c ≠ '.') :
    (digitsOf number ++ tail).takeWhile Char.isDigit = digitsOf number ∧
      (digitsOf number ++ tail).dropWhile Char.isDigit = tail := by
  have digits : ∀ c ∈ digitsOf number, c.isDigit = true := fun _ => isDigit_of_mem_digitsOf
  rw [List.takeWhile_append_of_pos digits, List.dropWhile_append_of_pos digits]
  cases tail with
  | nil => simp
  | cons c tail => simp [(stops c rfl).1]

/-- A tail without a point has no fraction. -/
theorem fraction?_of_stops {tail : List Char}
    (stops : ∀ c ∈ tail.head?, c.isDigit = false ∧ c ≠ '.') :
    fraction? tail = some ([], tail) := by
  unfold fraction?
  split
  · exact absurd rfl (stops '.' rfl).2
  · rfl

/-- An integral numeral consists of its sign and its digits. -/
theorem eq_of_isIntegral {numeral : Numeral} (integral : numeral.isIntegral = true) :
    numeral = { negative := numeral.negative, digits := numeral.digits } := by
  obtain ⟨negative, digits, places, exponent⟩ := numeral
  simp only [isIntegral, Bool.and_eq_true, beq_iff_eq, Option.isNone_iff_eq_none] at integral
  rw [integral.1, integral.2]

/-- The unsigned part of a written number is read as what is left of the number. -/
theorem ofUnsigned?_digitsOf (numeral : Numeral) :
    ofUnsigned? numeral.negative (digitsOf numeral.digits ++ numeral.tail) =
      some numeral.reread := by
  have ⟨nonempty, plain⟩ := digitsOf_plain numeral.digits
  have ⟨whole, rest⟩ := takeWhile_digitsOf numeral.digits numeral.tail_stops
  have accepted : ((digitsOf numeral.digits).isEmpty ||
      ((digitsOf numeral.digits).length > 1 &&
        (digitsOf numeral.digits).head? == some '0')) = false := by
    simpa [nonempty] using plain
  rw [ofUnsigned?, whole, rest, accepted, fraction?_of_stops numeral.tail_stops]
  simp only [Bool.false_eq_true, if_false, Option.bind_eq_bind, Option.bind_some,
    exponent?_tail, List.append_nil, decimal_digitsOf, List.length_nil, reread]
  split
  · rename_i integral
    exact congrArg some (eq_of_isIntegral integral).symm
  · rfl

/-- The characters of a power of ten are those of a number. -/
theorem isNumeralChar_of_mem_tail {numeral : Numeral} {c : Char} (member : c ∈ numeral.tail) :
    Mode.isNumeralChar c = true := by
  unfold tail at member
  split at member
  · cases member
  · rcases List.mem_cons.mp member with rfl | inPower
    · decide
    · cases scaled : numeral.scale with
      | ofNat power =>
          rw [scaled, toList_toString_ofNat] at inPower
          exact isNumeralChar_of_isDigit (isDigit_of_mem_digitsOf inPower)
      | negSucc power =>
          rw [scaled, toList_toString_negSucc] at inPower
          rcases List.mem_cons.mp inPower with rfl | inDigits
          · decide
          · exact isNumeralChar_of_isDigit (isDigit_of_mem_digitsOf inDigits)

/-- A written number spells what is left of it. -/
theorem spells (numeral : Numeral) {rest : List Char} (delimited : Delimited rest) :
    Spells numeral.write.toList [.number numeral.reread] rest := by
  have goesOn : ∀ c ∈ digitsOf numeral.digits ++ numeral.tail, Mode.isNumeralChar c = true := by
    intro c member
    rcases List.mem_append.mp member with inDigits | inTail
    · exact isNumeralChar_of_isDigit (isDigit_of_mem_digitsOf inDigits)
    · exact isNumeralChar_of_mem_tail inTail
  have read := ofUnsigned?_digitsOf numeral
  rw [toList_write]
  cases negative : numeral.negative with
  | true =>
      rw [negative] at read
      have isNumeral : ofChars? ('-' :: (digitsOf numeral.digits ++ numeral.tail)) =
          some numeral.reread := read
      exact spells_numeral isNumeral (.inr rfl) goesOn delimited
  | false =>
      rw [negative] at read
      obtain ⟨c, digits, spelled⟩ := List.exists_cons_of_ne_nil (digitsOf_plain numeral.digits).1
      have digit : c.isDigit = true :=
        isDigit_of_mem_digitsOf (spelled.symm ▸ List.mem_cons_self)
      have unsigned : c ≠ '-' := by
        rintro rfl
        exact absurd digit (by decide)
      have isNumeral : ofChars? (c :: (digits ++ numeral.tail)) = some numeral.reread := by
        rw [spelled, List.cons_append] at read
        unfold ofChars?
        split
        · rename_i same
          exact absurd (List.cons.inj same).1 unsigned
        · exact read
      rw [spelled, List.cons_append] at goesOn
      rw [spelled]
      exact spells_numeral isNumeral (.inl digit)
        (fun other member => goesOn other (List.mem_cons_of_mem _ member)) delimited

end Numeral

/-! Texts. -/

/-- How a character is written: as itself, by an escaped letter, or by its code. -/
inductive Escapes (c : Char) : List Char → Prop where
  | itself (printable : 0x20 ≤ c.toNat) (unquoted : c ≠ '"') (unescaped : c ≠ '\\') :
      Escapes c [c]
  | letter {letter : Char} (isLetter : Piece.ofLetter? letter = some c.toNat) :
      Escapes c ['\\', letter]
  | code (control : c.toNat < 0x20) :
      Escapes c
        ['\\', 'u', '0', '0', Nat.digitChar (c.toNat / 16), Nat.digitChar (c.toNat % 16)]

/-- Every character is written in one of the three ways. -/
theorem escapes_escapeChar (c : Char) : Escapes c (escapeChar c) := by
  unfold escapeChar
  split
  case h_8 =>
    rename_i unquoted unescaped _ _ _ _ _
    split
    · rename_i control
      exact .code control
    · rename_i printable
      exact .itself (Nat.not_lt.mp printable) unquoted unescaped
  all_goals exact .letter rfl

/-- A hexadecimal digit is read as its value. -/
theorem hexValue?_digitChar {digit : Nat} (below : digit < 16) :
    hexValue? (Nat.digitChar digit) = some digit := by
  have each : ∀ digit < 16, hexValue? (Nat.digitChar digit) = some digit := by decide
  exact each digit below

namespace Piece

/-- A character as it is read between quotation marks. -/
def written (c : Char) : Piece :=
  if escapeChar c = [c] then .raw c else .escaped c.toNat

/-- An escaped code that is no surrogate half stands for its character. -/
theorem chars?_escaped {code : Nat} (below : code < 0xd800) (pieces : List Piece) :
    chars? (.escaped code :: pieces) = (chars? pieces).map (Char.ofNat code :: ·) := by
  have noHigh : ¬ 0xd800 ≤ code := by omega
  have noLow : ¬ 0xdc00 ≤ code := by omega
  match pieces with
  | [] => simp [chars?, noHigh]
  | .raw char :: rest => simp [chars?, noHigh]
  | .escaped next :: rest => simp only [chars?, noHigh, noLow]; simp

/-- Escaped characters are far below the surrogate halves. -/
theorem toNat_lt_of_escaped {c : Char} (escaped : escapeChar c ≠ [c]) : c.toNat < 0xd800 := by
  have escapes := escapes_escapeChar c
  generalize escapeChar c = chars at escapes escaped
  cases escapes with
  | itself => exact absurd rfl escaped
  | letter isLetter =>
      unfold ofLetter? at isLetter
      split at isLetter <;> simp at isLetter <;> omega
  | code control => omega

/-- Written characters are read as themselves. -/
theorem chars?_written (chars : List Char) : chars? (chars.map written) = some chars := by
  induction chars with
  | nil => rfl
  | cons c chars inductionHypothesis =>
      rw [List.map_cons, written]
      split
      · rw [chars?, inductionHypothesis]
        rfl
      · rename_i escaped
        rw [chars?_escaped (toNat_lt_of_escaped escaped), inductionHypothesis]
        simp

end Piece

/-- A written character is read between quotation marks. -/
theorem scan_escapeChar (c : Char) (pieces : List Piece) (done : List Token) (rest : List Char) :
    scan (.quoted pieces) done (escapeChar c ++ rest) =
      scan (.quoted (Piece.written c :: pieces)) done rest := by
  have escapes := escapes_escapeChar c
  have opened : (Mode.quoted pieces).feed? '\\' = some ([], .escape pieces) := rfl
  unfold Piece.written
  generalize escapeChar c = chars at escapes
  cases escapes with
  | itself printable unquoted unescaped =>
      have fed : (Mode.quoted pieces).feed? c = some ([], .quoted (.raw c :: pieces)) := by
        simp [Mode.feed?, unquoted, unescaped, Nat.not_lt.mpr printable]
      rw [if_pos rfl, List.singleton_append, scan_cons fed]
      rfl
  | @letter letter isLetter =>
      have fed : (Mode.escape pieces).feed? letter =
          some ([], .quoted (.escaped c.toNat :: pieces)) := by
        have known : letter ≠ 'u' := by
          rintro rfl
          cases isLetter
        simp [Mode.feed?, known, isLetter]
      rw [if_neg (by simp), List.cons_append, scan_cons opened, List.singleton_append,
        scan_cons fed]
      rfl
  | code control =>
      have marked : (Mode.escape pieces).feed? 'u' = some ([], .code pieces 0 4) := rfl
      have digit : ∀ {hex value digit} missing, hexValue? hex = some digit →
          (Mode.code pieces value (missing + 2)).feed? hex =
            some ([], .code pieces (value * 16 + digit) (missing + 1)) := by
        intro hex value digit missing isHex
        simp [Mode.feed?, isHex]
      have last : ∀ {hex value digit}, hexValue? hex = some digit →
          (Mode.code pieces value 1).feed? hex =
            some ([], .quoted (.escaped (value * 16 + digit) :: pieces)) := by
        intro hex value digit isHex
        simp [Mode.feed?, isHex]
      have zero : hexValue? '0' = some 0 := rfl
      have code : ((0 * 16 + 0) * 16 + 0) * 16 + c.toNat / 16 = c.toNat / 16 := by omega
      rw [if_neg (by simp)]
      simp only [List.cons_append, List.nil_append]
      rw [scan_cons opened, scan_cons marked, scan_cons (digit 2 zero), scan_cons (digit 1 zero),
        scan_cons (digit 0 (hexValue?_digitChar (by omega))),
        scan_cons (last (hexValue?_digitChar (by omega))), code, Nat.div_add_mod']
      rfl

/-- Written characters are read between quotation marks. -/
theorem scan_escaped (chars : List Char) (pieces : List Piece) (done : List Token)
    (rest : List Char) :
    scan (.quoted pieces) done (chars.flatMap escapeChar ++ rest) =
      scan (.quoted ((chars.map Piece.written).reverse ++ pieces)) done rest := by
  induction chars generalizing pieces with
  | nil => rfl
  | cons c chars inductionHypothesis =>
      rw [List.flatMap_cons, List.append_assoc, scan_escapeChar, inductionHypothesis,
        List.map_cons, List.reverse_cons, List.append_assoc]
      rfl

namespace Text

/-- What is left of a written text: its characters, and whether one of them is escaped. -/
def reread (text : Text) : Text :=
  Piece.text ((text.chars?.getD "").toList.map Piece.written)

/-- What is left of a written text has the same characters, or none if it had no reading. -/
theorem chars?_reread (text : Text) : text.reread.chars? = some (text.chars?.getD "") := by
  simp [reread, Piece.text, Piece.chars?_written]

/-- A written text spells what is left of it. -/
theorem spells (text : Text) (rest : List Char) :
    Spells text.write.toList [.text text.reread] rest := by
  intro done
  have opened : Mode.start? '"' = some ([], .quoted []) := rfl
  have closed : (Mode.quoted ((text.chars?.getD "").toList.map Piece.written).reverse).feed? '"' =
      some ([.text text.reread], .between) := by
    simp [Mode.feed?, reread]
  have written : text.write.toList =
      '"' :: ((text.chars?.getD "").toList.flatMap escapeChar ++ ['"']) := by
    simp [write, quote]
  rw [written, List.cons_append, scan_start opened, List.append_assoc, scan_escaped,
    List.append_nil, List.singleton_append, scan_cons closed]
  rfl

end Text

end VmRecovery.Json

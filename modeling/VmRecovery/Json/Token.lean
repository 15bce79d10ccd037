import VmRecovery.Hex
import VmRecovery.Json.Value

/-!
# JSON tokens

The lexical level of JSON as an automaton that reads one character at a time. White space is
space, tab, line feed and carriage return; numbers have no plus sign and no leading zeros;
control characters have to be escaped inside quotation marks.
-/

namespace VmRecovery.Json

/-- The tokens of a document. -/
inductive Token where
  | openArray
  | closeArray
  | openObject
  | closeObject
  | comma
  | colon
  | null
  | bool (value : Bool)
  | number (value : Numeral)
  | text (value : Text)
  deriving DecidableEq, Repr

/-- The white space of JSON. -/
def isBlank (c : Char) : Bool :=
  c == ' ' || c == '\t' || c == '\n' || c == '\r'

/-- The number that decimal digits denote. -/
def decimal (digits : List Char) : Nat :=
  digits.foldl (fun value digit => value * 10 + (digit.toNat - '0'.toNat)) 0

namespace Numeral

/-- The digits after a point, if there is one, and what follows. -/
def fraction? : List Char → Option (List Char × List Char)
  | '.' :: rest =>
      let digits := rest.takeWhile Char.isDigit
      if digits.isEmpty then none else some (digits, rest.dropWhile Char.isDigit)
  | rest => some ([], rest)

/-- The unsigned part of an exponent, which is all that is left. -/
def magnitude? (rest : List Char) : Option Nat :=
  if rest.isEmpty || !rest.all Char.isDigit then none else some (decimal rest)

/-- The exponent at the end of a number; there is none if nothing is left. -/
def exponent? : List Char → Option (Option Int)
  | [] => some none
  | mark :: rest =>
      if mark != 'e' && mark != 'E' then none
      else match rest with
        | '-' :: rest => (magnitude? rest).map fun value => some (-(value : Int))
        | '+' :: rest => (magnitude? rest).map fun value => some (value : Int)
        | rest => (magnitude? rest).map fun value => some (value : Int)

/-- Reads the characters of an unsigned number. -/
def ofUnsigned? (negative : Bool) (chars : List Char) : Option Numeral := do
  let whole := chars.takeWhile Char.isDigit
  if whole.isEmpty || (whole.length > 1 && whole.head? == some '0') then none
  else
    let (places, rest) ← fraction? (chars.dropWhile Char.isDigit)
    let exponent ← exponent? rest
    some
      { negative
        digits := decimal (whole ++ places)
        places := places.length
        exponent }

/-- Reads the characters of a number. -/
def ofChars? : List Char → Option Numeral
  | '-' :: rest => ofUnsigned? true rest
  | chars => ofUnsigned? false chars

end Numeral

/-- A character between quotation marks: written as itself, or escaped as a UTF-16 unit. -/
inductive Piece where
  | raw (char : Char)
  | escaped (code : Nat)
  deriving DecidableEq, Repr

namespace Piece

/-- The character of a surrogate pair. -/
def combine (high low : Nat) : Char :=
  Char.ofNat (0x10000 + (high - 0xd800) * 0x400 + (low - 0xdc00))

/-- The characters that pieces stand for, if every surrogate half has its partner. -/
def chars? : List Piece → Option (List Char)
  | [] => some []
  | .raw char :: rest => (chars? rest).map (char :: ·)
  | .escaped high :: .escaped low :: rest =>
      if 0xd800 ≤ high && high < 0xdc00 then
        if 0xdc00 ≤ low && low < 0xe000 then (chars? rest).map (combine high low :: ·) else none
      else if 0xdc00 ≤ high && high < 0xe000 then none
      else (chars? (.escaped low :: rest)).map (Char.ofNat high :: ·)
  | .escaped code :: rest =>
      if 0xd800 ≤ code && code < 0xe000 then none
      else (chars? rest).map (Char.ofNat code :: ·)

/-- Whether a piece was written as itself. -/
def isRaw : Piece → Bool
  | .raw _ => true
  | .escaped _ => false

/-- The text between two quotation marks. -/
def text (pieces : List Piece) : Text :=
  { chars? := (chars? pieces).map String.ofList, verbatim := pieces.all isRaw }

/-- The code of a one-letter escape. -/
def ofLetter? : Char → Option Nat
  | '"' => some 0x22
  | '\\' => some 0x5c
  | '/' => some 0x2f
  | 'b' => some 0x08
  | 'f' => some 0x0c
  | 'n' => some 0x0a
  | 'r' => some 0x0d
  | 't' => some 0x09
  | _ => none

end Piece

/-- What the automaton is in the middle of; collected characters are in reverse. -/
inductive Mode where
  | between
  | word (letters : List Char)
  | numeral (chars : List Char)
  | quoted (pieces : List Piece)
  /-- After a backslash. -/
  | escape (pieces : List Piece)
  /-- Inside a numeric escape, with the code of the digits read and how many are missing. -/
  | code (pieces : List Piece) (value missing : Nat)

namespace Mode

/-- Characters that a number can contain. -/
def isNumeralChar (c : Char) : Bool :=
  c.isDigit || c == '-' || c == '+' || c == '.' || c == 'e' || c == 'E'

/-- The three words of JSON. -/
def keyword? : List Char → Option Token
  | ['n', 'u', 'l', 'l'] => some .null
  | ['t', 'r', 'u', 'e'] => some (.bool true)
  | ['f', 'a', 'l', 's', 'e'] => some (.bool false)
  | _ => none

/-- The first character of a token, or white space before it. -/
def start? (c : Char) : Option (List Token × Mode) :=
  if isBlank c then some ([], between)
  else if c.isDigit || c == '-' then some ([], numeral [c])
  else if c.isLower then some ([], word [c])
  else match c with
    | '"' => some ([], quoted [])
    | '[' => some ([.openArray], between)
    | ']' => some ([.closeArray], between)
    | '\x7b' => some ([.openObject], between)
    | '\x7d' => some ([.closeObject], between)
    | ',' => some ([.comma], between)
    | ':' => some ([.colon], between)
    | _ => none

/-- The token that ends where another one starts, or at the end of the document. -/
def close? : Mode → Option (List Token)
  | between => some []
  | word letters => (keyword? letters.reverse).map ([·])
  | numeral chars => (Numeral.ofChars? chars.reverse).map ([.number ·])
  | _ => none

/-- Reads one character. -/
def feed? (mode : Mode) (c : Char) : Option (List Token × Mode) :=
  match mode with
  | between => start? c
  | word letters =>
      if c.isLower then some ([], word (c :: letters))
      else do
        let ended ← close? mode
        let (started, next) ← start? c
        return (ended ++ started, next)
  | numeral chars =>
      if isNumeralChar c then some ([], numeral (c :: chars))
      else do
        let ended ← close? mode
        let (started, next) ← start? c
        return (ended ++ started, next)
  | quoted pieces =>
      if c == '"' then some ([.text (Piece.text pieces.reverse)], between)
      else if c == '\\' then some ([], escape pieces)
      else if c.toNat < 0x20 then none
      else some ([], quoted (.raw c :: pieces))
  | escape pieces =>
      if c == 'u' then some ([], code pieces 0 4)
      else (Piece.ofLetter? c).map fun value => ([], quoted (.escaped value :: pieces))
  | code pieces value missing =>
      (hexValue? c).map fun digit =>
        let value := value * 16 + digit
        if missing ≤ 1 then ([], quoted (.escaped value :: pieces))
        else ([], code pieces value (missing - 1))

end Mode

/-- Reads the remaining characters; the tokens read before are in reverse. -/
def scan : Mode → List Token → List Char → Option (List Token)
  | mode, done, [] => mode.close?.map fun ended => done.reverse ++ ended
  | mode, done, c :: rest =>
      match mode.feed? c with
      | none => none
      | some (tokens, next) => scan next (tokens.reverse ++ done) rest

/-- The tokens of a document. -/
def tokens? (document : String) : Option (List Token) :=
  scan .between [] document.toList

end VmRecovery.Json

import VmRecovery.Hex
import VmRecovery.Json.Value

/-!
# Writing JSON

Two layouts of one value: `compact` has no white space at all, `pretty` puts every item on a
line of its own, indented by two spaces a level. Only quotation marks, backslashes and control
characters are escaped.
-/

namespace VmRecovery.Json

/-- A character inside quotation marks. -/
def escapeChar (c : Char) : List Char :=
  match c with
  | '"' => ['\\', '"']
  | '\\' => ['\\', '\\']
  | '\x08' => ['\\', 'b']
  | '\t' => ['\\', 't']
  | '\n' => ['\\', 'n']
  | '\x0c' => ['\\', 'f']
  | '\r' => ['\\', 'r']
  | c =>
      if c.toNat < 0x20 then
        ['\\', 'u', '0', '0', Nat.digitChar (c.toNat / 16), Nat.digitChar (c.toNat % 16)]
      else [c]

/-- A text between quotation marks. -/
def quote (text : String) : String :=
  "\"" ++ String.ofList (text.toList.flatMap escapeChar) ++ "\""

/-- The digits of a numeral, with an exponent if it has one. -/
def Numeral.write (numeral : Numeral) : String :=
  (if numeral.negative then "-" else "") ++ toString numeral.digits ++
    (if numeral.isIntegral then "" else "e" ++ toString numeral.scale)

/-- A quoted text; one that names no characters is written as an empty text. -/
def Text.write (text : Text) : String :=
  quote (text.chars?.getD "")

mutual

/-- A value without white space. -/
def compact : Json → String
  | null => "null"
  | bool value => if value then "true" else "false"
  | number value => value.write
  | text value => value.write
  | array items => "[" ++ separated "," (compactItems items) ++ "]"
  | object fields => "\x7b" ++ separated "," (compactFields fields) ++ "\x7d"

/-- The items of an array, each without white space. -/
def compactItems : List Json → List String
  | [] => []
  | item :: rest => compact item :: compactItems rest

/-- The fields of an object, each without white space. -/
def compactFields : List (Text × Json) → List String
  | [] => []
  | (key, value) :: rest => (key.write ++ ":" ++ compact value) :: compactFields rest

end

/-- A line break and the indentation of a level. -/
def lineBreak (level : Nat) : String :=
  "\n" ++ String.ofList (List.replicate (2 * level) ' ')

/-- Lines one level deeper between brackets; without lines the brackets stand together. -/
def bracketed (opening closing : String) (level : Nat) (lines : List String) : String :=
  if lines.isEmpty then opening ++ closing
  else
    opening ++ lineBreak (level + 1) ++ separated ("," ++ lineBreak (level + 1)) lines ++
      lineBreak level ++ closing

mutual

/-- A value at a level of indentation, every item on its own line. -/
def prettyAt (level : Nat) : Json → String
  | null => "null"
  | bool value => if value then "true" else "false"
  | number value => value.write
  | text value => value.write
  | array items => bracketed "[" "]" level (prettyItems (level + 1) items)
  | object fields => bracketed "\x7b" "\x7d" level (prettyFields (level + 1) fields)

/-- The items of an array at a level of indentation. -/
def prettyItems (level : Nat) : List Json → List String
  | [] => []
  | item :: rest => prettyAt level item :: prettyItems level rest

/-- The fields of an object at a level of indentation. -/
def prettyFields (level : Nat) : List (Text × Json) → List String
  | [] => []
  | (key, value) :: rest =>
      (key.write ++ ": " ++ prettyAt level value) :: prettyFields level rest

end

/-- A value with every item on its own line. -/
def pretty (value : Json) : String :=
  prettyAt 0 value

end VmRecovery.Json

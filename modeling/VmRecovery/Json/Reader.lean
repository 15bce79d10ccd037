import VmRecovery.Json.Token

/-!
# Reading JSON

Tokens are put together by an automaton with a stack of the arrays and objects that are still
open. A document is one value; nothing but white space may follow it.
-/

namespace VmRecovery.Json

/-- An array or object that is still open; what it holds so far is in reverse. -/
inductive Frame where
  | array (done : List Json)
  | object (done : List (Text × Json))
  /-- An object whose last key has no value yet. -/
  | field (done : List (Text × Json)) (key : Text)

/-- What may come next. -/
inductive Expected where
  | value
  /-- The first item of an array, or its end. -/
  | firstItem
  | key
  /-- The first key of an object, or its end. -/
  | firstKey
  | colon
  /-- A comma, or the end of the innermost array or object. -/
  | separator
  deriving DecidableEq

/-- How far a document has been read. -/
inductive Progress where
  | inside (stack : List Frame) (expected : Expected)
  | complete (value : Json)

namespace Progress

/-- A value has been read and goes into the innermost open array or object. -/
def place? (value : Json) : List Frame → Option Progress
  | [] => some (complete value)
  | .array done :: stack => some (inside (.array (value :: done) :: stack) .separator)
  | .field done key :: stack => some (inside (.object ((key, value) :: done) :: stack) .separator)
  | .object _ :: _ => none

/-- The token that begins a value. -/
def value? (stack : List Frame) : Token → Option Progress
  | .null => place? .null stack
  | .bool value => place? (.bool value) stack
  | .number value => place? (.number value) stack
  | .text value => place? (.text value) stack
  | .openArray => some (inside (.array [] :: stack) .firstItem)
  | .openObject => some (inside (.object [] :: stack) .firstKey)
  | _ => none

/-- The token that ends the innermost array or object. -/
def close? : List Frame → Token → Option Progress
  | .array done :: stack, .closeArray => place? (.array done.reverse) stack
  | .object done :: stack, .closeObject => place? (.object done.reverse) stack
  | _, _ => none

/-- A key of the innermost object. -/
def key? : List Frame → Token → Option Progress
  | .object done :: stack, .text key => some (inside (.field done key :: stack) .colon)
  | _, _ => none

/-- Reads one token. -/
def feed? : Progress → Token → Option Progress
  | complete _, _ => none
  | inside stack .value, token => value? stack token
  | inside stack .firstItem, token => close? stack token <|> value? stack token
  | inside stack .key, token => key? stack token
  | inside stack .firstKey, token => close? stack token <|> key? stack token
  | inside stack .colon, .colon => some (inside stack .value)
  | inside _ .colon, _ => none
  | inside (.array done :: stack) .separator, .comma =>
      some (inside (.array done :: stack) .value)
  | inside (.object done :: stack) .separator, .comma =>
      some (inside (.object done :: stack) .key)
  | inside stack .separator, token => close? stack token

/-- The value of a document that has been read to its end. -/
def result? : Progress → Option Json
  | complete value => some value
  | inside _ _ => none

end Progress

/-- The value that a list of tokens spells. -/
def ofTokens? (tokens : List Token) : Option Json := do
  let progress ← tokens.foldlM Progress.feed? (.inside [] .value)
  progress.result?

/-- The value of a document. -/
def parse? (document : String) : Option Json :=
  (tokens? document).bind ofTokens?

end VmRecovery.Json

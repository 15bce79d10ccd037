/-!
# JSON values

A parsed document. Numbers and texts keep what a schema may still refuse: a number is kept as
the decimal that was written, a text remembers whether it names characters at all.
-/

namespace VmRecovery

namespace Json

/-- A number as it was written: its digits, where the point stands among them, and the power of
ten behind them. -/
structure Numeral where
  negative : Bool := false
  /-- The digits before and after the point, read as one number. -/
  digits : Nat
  /-- How many of the digits stand after the point. -/
  places : Nat := 0
  /-- The written power of ten, if there is one. -/
  exponent : Option Int := none
  deriving DecidableEq, Repr, Inhabited

namespace Numeral

/-- The numeral of an integer. -/
def ofInt (value : Int) : Numeral :=
  { negative := value < 0, digits := value.natAbs }

/-- Whether neither a point nor a power of ten was written. -/
def isIntegral (numeral : Numeral) : Bool :=
  numeral.places == 0 && numeral.exponent.isNone

/-- The power of ten by which the digits are multiplied. -/
def scale (numeral : Numeral) : Int :=
  numeral.exponent.getD 0 - numeral.places

/-- The integer that a numeral stands for. A minus sign before zero makes a number that is not
an integer. -/
def toInt? (numeral : Numeral) : Option Int :=
  if !numeral.isIntegral || (numeral.negative && numeral.digits == 0) then none
  else if numeral.negative then some (-(numeral.digits : Int))
  else some numeral.digits

end Numeral

/-- The inside of a quoted text. -/
structure Text where
  /-- The characters, unless an escape names one half of a surrogate pair alone. -/
  chars? : Option String
  /-- No escape was used. -/
  verbatim : Bool := true
  deriving DecidableEq, Repr, Inhabited

end Json

/-- A JSON value. The fields of an object are kept in order, repetitions included. -/
inductive Json where
  | null
  | bool (value : Bool)
  | number (value : Json.Numeral)
  | text (value : Json.Text)
  | array (items : List Json)
  | object (fields : List (Json.Text × Json))
  deriving Inhabited

namespace Json

/-- An integer as a JSON value. -/
def int (value : Int) : Json :=
  .number (.ofInt value)

/-- A natural number as a JSON value. -/
def nat (value : Nat) : Json :=
  .int value

/-- A text as a JSON value. -/
def string (value : String) : Json :=
  .text { chars? := some value }

/-- An object with the given keys. -/
def record (fields : List (String × Json)) : Json :=
  .object (fields.map fun (key, value) => ({ chars? := some key }, value))

/-- An object with one key. -/
def tagged (key : String) (value : Json) : Json :=
  .record [(key, value)]

/-- A value that may be absent; absence is null. -/
def optional {α : Type} (write : α → Json) : Option α → Json
  | none => .null
  | some value => write value

end Json

end VmRecovery
